import Mathlib.Data.List.Basic

set_option autoImplicit false

/-!
# Command lines

An argument of a command line is a switch, or an option that is joined to its value by an equals
sign. A value is an arbitrary text: however it is chosen, it is read back as it was written, and it
is never read as a switch or as another option.

## Main definitions

* `stripPrefix` — what is left of a text after its start.
* `value` — look up an option, written `name=value` or as two arguments.
* `Arg`, `Arg.render` — an argument, and its text.

## Main results

* `stripPrefix_render` — which option an argument is of.
* `value_map_render` — an option is looked up among arguments, not among texts.
* `mem_map_render` — a switch is given exactly when it is among the arguments.
-/

namespace RemoteLink.Library.CommandLine

/-- What is left of a text after `start`, if it starts with it. -/
def stripPrefix (start s : String) : Option String :=
  if start.toList <+: s.toList then some (String.ofList (s.toList.drop start.toList.length))
  else none

/-- The value of an option: what is joined to its name by an equals sign, or the argument that
follows its name. -/
def value (name : String) : List String → Option String
  | [] => none
  | arg :: rest =>
    if arg = name then rest.head?
    else match stripPrefix (name ++ "=") arg with
      | some v => some v
      | none => value name rest

/-! ## Arguments -/

/-- An argument: a switch, or an option with its value. -/
inductive Arg where
  | switch (name : String)
  | option (name value : String)
  deriving Repr, DecidableEq

namespace Arg

/-- The name of an argument. -/
def name : Arg → String
  | .switch name | .option name _ => name

/-- The text of an argument. -/
def render : Arg → String
  | .switch name => name
  | .option name v => name ++ "=" ++ v

/-- The value of the option `name`, if this is one. -/
def valueOf (name : String) : Arg → Option String
  | .switch _ => none
  | .option n v => if n = name then some v else none

@[simp] theorem valueOf_switch (name n : String) : (Arg.switch n).valueOf name = none := rfl

@[simp] theorem valueOf_option (name n v : String) :
    (Arg.option n v).valueOf name = if n = name then some v else none := rfl

/-- The name has no equals sign in it. -/
def Plain (a : Arg) : Prop := '=' ∉ a.name.toList

instance : DecidablePred Plain := fun a => inferInstanceAs (Decidable ('=' ∉ a.name.toList))

end Arg

open Arg

variable {name other v : String} {a : Arg} {args : List Arg}

/-- What follows its start is left of a text. -/
theorem stripPrefix_append (start v : String) : stripPrefix start (start ++ v) = some v := by
  rw [stripPrefix, if_pos, String.toList_append, List.drop_left, String.ofList_toList]
  rw [String.toList_append]
  exact List.prefix_append _ _

/-- A text that is stripped is its start and what is left. -/
theorem eq_append_of_stripPrefix {start s : String} (h : stripPrefix start s = some v) :
    s = start ++ v := by
  unfold stripPrefix at h
  split_ifs at h with hstart
  obtain ⟨rest, hrest⟩ := hstart
  obtain rfl := Option.some.inj h
  rw [← String.toList_inj, ← hrest, List.drop_left, String.toList_append, String.toList_ofList]

/-- Two texts that are equal up to an equals sign, which neither has before it. -/
theorem append_equals_inj {m n : List Char} {r s : List Char} (hm : '=' ∉ m) (hn : '=' ∉ n)
    (h : m ++ '=' :: r = n ++ '=' :: s) : m = n ∧ r = s := by
  induction m generalizing n with
  | nil =>
    cases n with
    | nil => exact ⟨rfl, (List.cons.inj h).2⟩
    | cons c n =>
      obtain rfl := (List.cons.inj h).1
      exact absurd (List.mem_cons_self) hn
  | cons c m ih =>
    cases n with
    | nil =>
      obtain rfl := (List.cons.inj h).1
      exact absurd (List.mem_cons_self) hm
    | cons d n =>
      obtain ⟨rfl, htail⟩ := List.cons.inj h
      obtain ⟨rfl, hrest⟩ := ih (fun hmem => hm (List.mem_cons_of_mem _ hmem))
        (fun hmem => hn (List.mem_cons_of_mem _ hmem)) htail
      exact ⟨rfl, hrest⟩

/-- The characters of an option. -/
theorem toList_option (name v : String) :
    (name ++ "=" ++ v).toList = name.toList ++ '=' :: v.toList := by
  rw [String.toList_append, String.toList_append, List.append_assoc]
  rfl

/-- **Which option an argument is of**: only the one that has its name, with the value it has. -/
theorem stripPrefix_render (hname : '=' ∉ name.toList) (ha : a.Plain) :
    stripPrefix (name ++ "=") a.render = a.valueOf name := by
  cases a with
  | switch n =>
    refine Option.eq_none_iff_forall_ne_some.mpr fun v hv => ha ?_
    have htext : n = name ++ "=" ++ v := eq_append_of_stripPrefix hv
    change '=' ∈ n.toList
    rw [htext, toList_option]
    exact List.mem_append_right _ List.mem_cons_self
  | option n v =>
    by_cases heq : n = name
    · subst heq
      rw [valueOf, if_pos rfl]
      exact stripPrefix_append _ _
    · rw [valueOf, if_neg heq]
      refine Option.eq_none_iff_forall_ne_some.mpr fun w hw => heq ?_
      have htext : n ++ "=" ++ v = name ++ "=" ++ w := eq_append_of_stripPrefix hw
      have hlist := congrArg String.toList htext
      rw [toList_option, toList_option] at hlist
      exact String.toList_inj.mp (append_equals_inj ha hname hlist).1

/-- An argument has the text of a name exactly when it is that switch. -/
theorem render_eq_iff (hname : '=' ∉ name.toList) : a.render = name ↔ a = .switch name := by
  cases a with
  | switch n => exact ⟨congrArg _, Arg.switch.inj⟩
  | option n v =>
    refine ⟨fun h => ?_, fun h => nomatch h⟩
    rw [← h] at hname
    refine absurd ?_ hname
    change '=' ∈ (n ++ "=" ++ v).toList
    rw [toList_option]
    exact List.mem_append_right _ List.mem_cons_self

/-- **An option is looked up among the arguments**: its value is the one of the first argument that
is the option. -/
theorem value_map_render (hname : '=' ∉ name.toList) (hargs : ∀ a ∈ args, a.Plain)
    (hswitch : .switch name ∉ args) :
    value name (args.map render) = args.findSome? (valueOf name) := by
  induction args with
  | nil => rfl
  | cons a args ih =>
    have hne : a.render ≠ name := fun h =>
      hswitch ((render_eq_iff hname).mp h ▸ List.mem_cons_self)
    have hrest := ih (fun a ha => hargs a (List.mem_cons_of_mem _ ha))
      fun hmem => hswitch (List.mem_cons_of_mem _ hmem)
    rw [List.map_cons, value, if_neg hne, stripPrefix_render hname (hargs a List.mem_cons_self),
      List.findSome?_cons]
    cases a.valueOf name with
    | none => exact hrest
    | some v => rfl

/-- **A switch is given exactly when it is among the arguments.** -/
theorem mem_map_render (hname : '=' ∉ name.toList) :
    name ∈ args.map render ↔ .switch name ∈ args := by
  rw [List.mem_map]
  refine ⟨fun ⟨a, ha, htext⟩ => ?_, fun h => ⟨_, h, rfl⟩⟩
  rw [← (render_eq_iff hname).mp htext]
  exact ha

end RemoteLink.Library.CommandLine
