import Mathlib.Data.List.Nodup
import Mathlib.Tactic.Lemma
import Toolpath.Log.Setup
/-!
# Handlers of setups

A setup removes the handlers of the setup before and adds its own one by one, with a place to fail
in front of each. Whatever is added last is recorded as installed, and handlers are told apart by
their numbers, so at every exit the handlers of others are in front, untouched, and the installed
ones follow.

## Main definitions

* `Toolpath.Log.SetupCall`, `Logging.afterCall`, `Logging.afterCalls` — setups in a row, some of
  which fail.
* `Toolpath.Log.Logging.holding` — a log with handlers that no setup has added.
* `Toolpath.Log.Logging.Tidy` — handlers of others in front, installed ones behind, none twice.
* `Toolpath.Log.Options.looks` — the handlers that a setup asks for.

## Main results

* `Toolpath.Log.Logging.Tidy.setup` — a setup keeps handlers tidy, at every exit.
* `Toolpath.Log.Logging.looks_setup` — a setup installs what it asks for, unless it fails at its
  level.
* `Toolpath.Log.Logging.handlers_afterCalls` — handlers after setups in a row.
-/

namespace Toolpath.Log

open Files

/-! ## Setups in a row -/

/-- A setup as it is called: the arguments in order and by name, whether the console shows colors,
and the files there are. -/
structure SetupCall where
  ordered : List Value
  named : List (String × Value)
  terminal : Bool
  tree : Tree

/-- The options that a call asks for. -/
def SetupCall.options (c : SetupCall) : Except ArgumentFault Options :=
  Options.ofArguments c.ordered c.named

/-- Where a handler writes and how. -/
def Handler.look (h : Handler) : Target × Style := (h.target, h.style)

/-- Whether lines go to the console. -/
def Target.isConsole : Target → Bool
  | console => true
  | file _ => false

namespace Logging

/-- The log after a call. Arguments that are no options are refused before anything is done. -/
def afterCall (l : Logging) (c : SetupCall) : Logging :=
  match c.options with
  | .error _ => l
  | .ok o => (l.setup c.tree c.terminal o).logging

/-- The log after calls in a row. -/
def afterCalls (l : Logging) (calls : List SetupCall) : Logging := calls.foldl afterCall l

/-- A log with handlers that no setup has added. -/
def holding (level : Int) (context : Context) (own : List (Target × Style)) : Logging where
  level := level
  handlers := own.mapIdx fun i (target, style) => ⟨i, target, style⟩
  next := own.length
  context := context

/-! ## Tidy handlers -/

/-- Behind some handlers of others there are the installed ones, and no handler is there twice. -/
structure Tidy (l : Logging) (own : List Handler) : Prop where
  handlers : l.handlers = own ++ l.installed
  nodup : (l.handlers.map Handler.number).Nodup
  fresh : ∀ h ∈ l.handlers, h.number < l.next

variable {l : Logging} {own : List Handler}

/-- Handlers that no setup has added are tidy. -/
lemma tidy_holding (level : Int) (context : Context) (looks : List (Target × Style)) :
    (holding level context looks).Tidy (holding level context looks).handlers where
  handlers := (List.append_nil _).symm
  nodup := by
    have hnumbers : (holding level context looks).handlers.map Handler.number =
        List.range looks.length := by
      apply List.ext_getElem
      · simp [holding]
      · intro i _ _
        simp [holding]
    rw [hnumbers]
    exact List.nodup_range
  fresh := by
    intro h hh
    obtain ⟨i, hi, rfl⟩ := List.mem_mapIdx.mp hh
    exact hi

namespace Tidy

/-- The handlers of others carry other numbers than the installed ones. -/
lemma number_ne (h : l.Tidy own) {a b : Handler} (ha : a ∈ own) (hb : b ∈ l.installed) :
    b.number ≠ a.number := by
  have hnodup := h.nodup
  rw [h.handlers, List.map_append] at hnodup
  have hdisjoint := (List.nodup_append.mp hnodup).2.2
  exact fun heq =>
    hdisjoint _ (List.mem_map_of_mem ha) _ (List.mem_map_of_mem hb) heq.symm

/-- Without the handlers of the last setup those of others are left. -/
lemma handlers_drop (h : l.Tidy own) : l.drop.handlers = own := by
  have hown : own.filter (fun h => !l.installed.any (·.number == h.number)) = own := by
    rw [List.filter_eq_self]
    intro a ha
    rw [Bool.not_eq_true', List.any_eq_false]
    intro b hb
    simpa using h.number_ne ha hb
  have hinstalled :
      l.installed.filter (fun h => !l.installed.any (·.number == h.number)) = [] := by
    rw [List.filter_eq_nil_iff]
    intro a ha
    simp only [Bool.not_eq_true', Bool.not_eq_false, List.any_eq_true]
    exact ⟨a, ha, beq_self_eq_true _⟩
  rw [drop, h.handlers, List.filter_append, hown, hinstalled, List.append_nil]

lemma drop (h : l.Tidy own) : l.drop.Tidy own where
  handlers := h.handlers_drop.trans (List.append_nil own).symm
  nodup := h.nodup.sublist (List.filter_sublist.map Handler.number)
  fresh := fun a ha => h.fresh a (List.mem_of_mem_filter ha)

/-- A handler that is installed takes a number of its own. -/
lemma install (h : l.Tidy own) (target : Target) (style : Style) :
    (l.install target style).Tidy own where
  handlers := by
    rw [Logging.install, h.handlers, List.append_assoc]
  nodup := by
    rw [Logging.install, List.map_append, List.nodup_append]
    refine ⟨h.nodup, List.nodup_singleton _, ?_⟩
    intro n hn m hm
    obtain ⟨a, ha, rfl⟩ := List.mem_map.mp hn
    rw [List.map_singleton, List.mem_singleton] at hm
    rw [hm]
    exact Nat.ne_of_lt (h.fresh a ha)
  fresh := by
    intro a ha
    rw [Logging.install] at ha ⊢
    rcases List.mem_append.mp ha with ha | ha
    · exact Nat.lt_succ_of_lt (h.fresh a ha)
    · rw [List.mem_singleton.mp ha]
      exact Nat.lt_succ_self _

lemma installConsole (h : l.Tidy own) (terminal : Bool) (o : Options) :
    (l.installConsole terminal o).Tidy own := by
  rw [Logging.installConsole]
  split
  · exact h.install _ _
  · exact h

/-- A handler for a file is installed once the file is open, and otherwise nothing changes. -/
lemma installFile (h : l.Tidy own) (t : Tree) (o : Options) :
    (l.installFile t o).2.1.Tidy own := by
  rw [Logging.installFile]
  split
  · split
    · split
      · exact h.install _ _
      · exact h
    · exact h
  · exact h

/-- **A setup keeps handlers tidy**, whether it fails or not.

**Proof sketch.** Each step keeps them so: the drop, the console, the file. A new level and new
fields of the context do not touch handlers. -/
lemma setup (h : l.Tidy own) (t : Tree) (terminal : Bool) (o : Options) :
    (l.setup t terminal o).logging.Tidy own := by
  rw [Logging.setup]
  cases levelOf o.level with
  | error fault => exact h.drop
  | ok level =>
    have hlevel : { l.drop with level }.Tidy own := ⟨h.drop.handlers, h.drop.nodup, h.drop.fresh⟩
    have hfile := (hlevel.installConsole terminal o).installFile t o
    dsimp only
    split
    next fault l' t' heq =>
      rw [heq] at hfile
      exact hfile
    next l' t' heq =>
      rw [heq] at hfile
      cases fieldsOf o.context with
      | error fault => exact hfile
      | ok fields => exact ⟨hfile.handlers, hfile.nodup, hfile.fresh⟩

lemma afterCall (h : l.Tidy own) (c : SetupCall) : (l.afterCall c).Tidy own := by
  rw [Logging.afterCall]
  split
  · exact h
  · exact h.setup _ _ _

/-- Handlers stay tidy over calls in a row. -/
lemma afterCalls (h : l.Tidy own) (calls : List SetupCall) : (l.afterCalls calls).Tidy own := by
  induction calls generalizing l with
  | nil => exact h
  | cons c calls ih => exact ih (h.afterCall c)

end Tidy

end Logging

/-! ## What is installed -/

namespace Options

variable (o : Options) (t : Tree) (terminal : Bool)

/-- The file that a setup opens, if it asks for one and can open it. -/
def way? : Option Way :=
  match o.file with
  | .str name =>
    if name.isEmpty then none else (t.openToWrite (.ofText name.toList)).1.toOption
  | _ => none

/-- The handler for the console that a setup asks for. -/
def consoleLook : List (Target × Style) :=
  if o.console then [(.console, ⟨false, o.color && terminal⟩)] else []

/-- The handler for the file that a setup opens. -/
def fileLook : List (Target × Style) :=
  (o.way? t).toList.map fun way => (.file way, ⟨o.json, false⟩)

/-- The handlers that a setup asks for, in order. -/
def looks : List (Target × Style) := o.consoleLook terminal ++ o.fileLook t

/-- A setup asks for one handler for the console at most. -/
lemma countP_console_looks :
    (o.looks t terminal).countP (·.1.isConsole) = if o.console then 1 else 0 := by
  rw [looks, List.countP_append, consoleLook, fileLook]
  cases o.way? t <;> cases o.console <;> rfl

/-- A setup asks for one handler for a file at most. -/
lemma countP_file_looks :
    (o.looks t terminal).countP (!·.1.isConsole) = if (o.way? t).isSome then 1 else 0 := by
  rw [looks, List.countP_append, consoleLook, fileLook]
  cases o.way? t <;> cases o.console <;> rfl

end Options

namespace Logging

variable {l : Logging}

lemma looks_install (l : Logging) (target : Target) (style : Style) :
    (l.install target style).installed.map Handler.look =
      l.installed.map Handler.look ++ [(target, style)] := by
  rw [install, List.map_append]
  rfl

lemma looks_installConsole (l : Logging) (terminal : Bool) (o : Options) :
    (l.installConsole terminal o).installed.map Handler.look =
      l.installed.map Handler.look ++ o.consoleLook terminal := by
  rw [installConsole, Options.consoleLook]
  split
  · exact looks_install l _ _
  · exact (List.append_nil _).symm

/-- A file that is asked for is installed once it is open; if it cannot be opened, the setup
fails. -/
lemma looks_installFile (l : Logging) (t : Tree) (o : Options) :
    (l.installFile t o).2.1.installed.map Handler.look =
        l.installed.map Handler.look ++ o.fileLook t ∧
      ((l.installFile t o).1 = none → (o.way? t).isSome = o.file.isTrue) := by
  rw [installFile, Options.fileLook, Options.way?]
  cases o.file with
  | str name =>
    cases hname : name.isEmpty with
    | true => simp [Value.isTrue, hname]
    | false =>
      generalize hopen : t.openToWrite (.ofText name.toList) = opened
      obtain ⟨way, t'⟩ := opened
      cases way with
      | error fault => simp [Value.isTrue, hname, hopen, Except.toOption]
      | ok way => simp [Value.isTrue, hname, hopen, Except.toOption, looks_install]
  | null => exact ⟨(List.append_nil _).symm, fun _ => rfl⟩
  | bool | int | float | bytes | day | time | pair | list | set | map | deep =>
    dsimp only
    split
    · exact ⟨(List.append_nil _).symm, fun h => nomatch h⟩
    · next h => exact ⟨(List.append_nil _).symm, fun _ => (Bool.eq_false_iff.mpr h).symm⟩

/-- What a setup installs: all that it asks for, unless it fails at the level, and if it returns,
the file that is asked for is among it. -/
lemma looks_setup (l : Logging) (t : Tree) (terminal : Bool) (o : Options) :
    let outcome := l.setup t terminal o
    (outcome.logging.installed = [] ∨
        outcome.logging.installed.map Handler.look = o.looks t terminal) ∧
      (outcome.fault = none →
        outcome.logging.installed.map Handler.look = o.looks t terminal ∧
          (o.way? t).isSome = o.file.isTrue) := by
  intro outcome
  unfold outcome
  rw [setup]
  cases levelOf o.level with
  | error fault => exact ⟨.inl rfl, fun h => nomatch h⟩
  | ok level =>
    obtain ⟨hlooks, hopen⟩ :=
      looks_installFile ({ l.drop with level }.installConsole terminal o) t o
    rw [looks_installConsole] at hlooks
    change _ = o.looks t terminal at hlooks
    dsimp only
    split
    next fault l' t' heq =>
      rw [heq] at hlooks
      exact ⟨.inr hlooks, fun h => nomatch h⟩
    next l' t' heq =>
      rw [heq] at hlooks hopen
      cases fieldsOf o.context with
      | error fault => exact ⟨.inr hlooks, fun h => nomatch h⟩
      | ok fields => exact ⟨.inr hlooks, fun _ => ⟨hlooks, hopen rfl⟩⟩

/-- Of the installed handlers one at most writes to the console and one at most to a file. -/
def Slim (l : Logging) : Prop :=
  l.installed.countP (·.target.isConsole) ≤ 1 ∧ l.installed.countP (!·.target.isConsole) ≤ 1

lemma slim_of_installed_eq_nil (h : l.installed = []) : l.Slim := by
  rw [Slim, h]
  exact ⟨Nat.zero_le _, Nat.zero_le _⟩

/-- What a setup asks for is one handler for the console and one for a file at most. -/
lemma slim_of_looks {o : Options} {t : Tree} {terminal : Bool}
    (h : l.installed.map Handler.look = o.looks t terminal) : l.Slim := by
  have hconsole := o.countP_console_looks t terminal
  have hfile := o.countP_file_looks t terminal
  rw [← h, List.countP_map] at hconsole hfile
  constructor
  · refine Nat.le_trans (Nat.le_of_eq hconsole) ?_
    split <;> decide
  · refine Nat.le_trans (Nat.le_of_eq hfile) ?_
    split <;> decide

lemma slim_setup (l : Logging) (t : Tree) (terminal : Bool) (o : Options) :
    (l.setup t terminal o).logging.Slim := by
  rcases (looks_setup l t terminal o).1 with h | h
  · exact slim_of_installed_eq_nil h
  · exact slim_of_looks h

lemma Slim.afterCall (h : l.Slim) (c : SetupCall) : (l.afterCall c).Slim := by
  rw [Logging.afterCall]
  split
  · exact h
  · exact slim_setup l _ _ _

lemma Slim.afterCalls (h : l.Slim) (calls : List SetupCall) : (l.afterCalls calls).Slim := by
  induction calls generalizing l with
  | nil => exact h
  | cons c calls ih => exact ih (h.afterCall c)

/-- **Handlers after setups in a row.** Start with any handlers that no setup has added, and call
for setups with any arguments, some of which fail. Then those handlers are there as before, the
installed ones follow, and no handler is there twice; one at most of the installed ones writes to
the console and one at most to a file. And whatever call comes next, if it returns, then the
installed handlers are the one for the console, if it asks for it, and the one for the file, if it
names one.

**Proof sketch.** A setup keeps handlers tidy at every exit (`Tidy.setup`), and what it installs is
nothing or what it asks for (`looks_setup`). Both carry over to calls in a row by induction. -/
theorem handlers_afterCalls (level : Int) (context : Context) (own : List (Target × Style))
    (calls : List SetupCall) :
    let start := holding level context own
    let l := start.afterCalls calls
    l.handlers = start.handlers ++ l.installed ∧
      (l.handlers.map Handler.number).Nodup ∧
      l.installed.countP (·.target.isConsole) ≤ 1 ∧
      l.installed.countP (!·.target.isConsole) ≤ 1 ∧
      ∀ c o, c.options = .ok o → (l.setup c.tree c.terminal o).fault = none →
        (l.afterCall c).installed.map Handler.look = o.looks c.tree c.terminal ∧
          (o.way? c.tree).isSome = o.file.isTrue := by
  intro start l
  have htidy := (tidy_holding level context own).afterCalls calls
  have hslim := (slim_of_installed_eq_nil (l := start) rfl).afterCalls calls
  refine ⟨htidy.handlers, htidy.nodup, hslim.1, hslim.2, ?_⟩
  intro c o hoptions hfault
  rw [afterCall, hoptions]
  exact (looks_setup l c.tree c.terminal o).2 hfault

/-- A setup that fails at its level between two that return. -/
theorem handlers_afterCalls_restart :
    let plain : SetupCall := ⟨[], [], true, {}⟩
    let l := (holding 30 [] [(.console, {})]).afterCalls [plain, ⟨[.str "LOUD"], [], true, {}⟩]
    (l.afterCall plain).installed.map Handler.look = [(.console, ⟨false, true⟩)] := by
  intro plain l
  exact ((handlers_afterCalls 30 [] [(.console, {})] [plain, ⟨[.str "LOUD"], [], true, {}⟩]).2.2.2.2
    plain {} rfl (by decide +kernel)).1

end Logging

end Toolpath.Log
