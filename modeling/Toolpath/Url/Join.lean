import Toolpath.Url.Basic
/-!
# Joining URLs

A URL read relative to another one: what it leaves out is taken from the base, and its path goes
on where the base's last slash is. Names of one and two points are walked.

## Main definitions

* `Toolpath.Url.splitParameters` — a path without the parameters of its last name.
* `Toolpath.Url.walk` — a path without names of points.
* `Toolpath.Url.join` — a URL relative to a base.
-/

namespace Toolpath.Url

open Text

/-! ## Paths -/

/-- A path without the parameters behind a semicolon in its last name, and the parameters. -/
def splitParameters (u : Url) : List Char × List Char :=
  if isIn withParameters u.scheme then
    let last := afterLast '/' u.path
    match cutAt ';' last with
    | (name, some parameters) => (u.path.take (u.path.length - last.length) ++ name, parameters)
    | (_, none) => (u.path, [])
  else (u.path, [])

/-- The names on a path with those of points walked, the last first. -/
def walked (names : List (List Char)) : List (List Char) :=
  names.foldl (fun way name =>
    if name = ['.', '.'] then way.drop 1 else if name = ['.'] then way else name :: way) []

/-- Whether a name leads to a folder. -/
def isPoints (name : List Char) : Bool := name == ['.'] || name == ['.', '.']

/-- Names without the empty ones, but with the first and the last. -/
def withoutGaps (names : List (List Char)) : List (List Char) :=
  match names with
  | [] => []
  | [n] => [n]
  | n :: more => n :: more.dropLast.filter (!·.isEmpty) ++ [more.getLastD []]

/-- The text of names between slashes with those of points walked. A name of points at the end
leaves a slash, and so does a path that leads nowhere. -/
def walk (names : List (List Char)) : List Char :=
  let way := (walked names).reverse
  let way := if isPoints (names.getLastD []) then way ++ [[]] else way
  match joined ['/'] way with
  | [] => ['/']
  | path => path

/-- A path relative to the path of a base. -/
def joinPaths (base path : List Char) : List Char :=
  if path.head? = some '/' then walk (pieces '/' path)
  else
    let folder := pieces '/' base
    let folder := if folder.getLastD [] = [] then folder else folder.dropLast
    walk (withoutGaps (folder ++ pieces '/' path))

/-! ## URLs -/

/-- A path followed by its parameters. -/
def withParametersText (path parameters : List Char) : List Char :=
  path ++ behindSign ';' parameters

/-- The URL of a text, relative to a base; both are not empty. -/
def joinParts (base relative : List Char) : Except Fault (List Char) := do
  let b ← split base
  let u ← splitWith b.scheme relative
  if u.scheme != b.scheme || !isIn withRelative u.scheme then return relative
  else if isIn withAuthority u.scheme && !u.authority.isEmpty then
    let (path, parameters) := splitParameters u
    return text { u with path := withParametersText path parameters }
  else
    let authority := if isIn withAuthority u.scheme then b.authority else u.authority
    let (path, parameters) := splitParameters u
    let (basePath, baseParameters) := splitParameters b
    if path.isEmpty && parameters.isEmpty then
      let query := if u.query.isEmpty then b.query else u.query
      return text
        { u with
          authority := authority
          path := withParametersText basePath baseParameters
          query := query }
    else
      return text
        { u with
          authority := authority
          path := withParametersText (joinPaths basePath path) parameters }

/-- The URL of a text, relative to a base. -/
def join (base relative : List Char) : Except Fault (List Char) :=
  if base.isEmpty then .ok relative
  else if relative.isEmpty then .ok base
  else joinParts base relative

end Toolpath.Url
