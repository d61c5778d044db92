/-! The tag names that storage and query planning know. -/
namespace RelayStore

/-- A tag: a name and its values. -/
abbrev Tag := List String

/-- The indexed tag names, in slot order. -/
inductive TagName where
  | e | p | a | t | d | g | r
  deriving DecidableEq, Repr

namespace TagName

def all : List TagName := [e, p, a, t, d, g, r]

def text : TagName → String
  | e => "e"
  | p => "p"
  | a => "a"
  | t => "t"
  | d => "d"
  | g => "g"
  | r => "r"

/-- Names are compared exactly, upper and lower case apart. -/
def ofText? (s : String) : Option TagName := all.find? fun n => n.text = s

def index : TagName → Nat
  | e => 0
  | p => 1
  | a => 2
  | t => 3
  | d => 4
  | g => 5
  | r => 6

theorem ofText?_text (n : TagName) : ofText? n.text = some n := by cases n <;> decide

theorem text_of_ofText? {s : String} {n : TagName} (h : ofText? s = some n) : n.text = s := by
  simpa using List.find?_some h

theorem mem_all (n : TagName) : n ∈ all := by cases n <;> decide

end TagName

/-- One value for every indexed name. -/
structure PerTag (α : Type) where
  e : α
  p : α
  a : α
  t : α
  d : α
  g : α
  r : α
  deriving DecidableEq, Repr

namespace PerTag

variable {α : Type}

def const (x : α) : PerTag α := ⟨x, x, x, x, x, x, x⟩

def get (s : PerTag α) : TagName → α
  | .e => s.e
  | .p => s.p
  | .a => s.a
  | .t => s.t
  | .d => s.d
  | .g => s.g
  | .r => s.r

def set (s : PerTag α) (n : TagName) (x : α) : PerTag α :=
  match n with
  | .e => { s with e := x }
  | .p => { s with p := x }
  | .a => { s with a := x }
  | .t => { s with t := x }
  | .d => { s with d := x }
  | .g => { s with g := x }
  | .r => { s with r := x }

@[simp] theorem get_const (x : α) (n : TagName) : (const x).get n = x := by cases n <;> rfl

theorem get_set (s : PerTag α) (m n : TagName) (x : α) :
    (s.set m x).get n = if m = n then x else s.get n := by
  cases m <;> cases n <;> rfl

end PerTag
end RelayStore
