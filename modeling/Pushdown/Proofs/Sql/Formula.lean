import Pushdown.Proofs.Sql.Token

/-!
Conditions read from tokens, AND before OR, and their truth in three values. What a test of one
column means is left open here.
-/
namespace Pushdown.Sql

/-- A constant with its text as it stands between the quotes or, for a number, as written. -/
inductive Constant
  | number (cs : List Char)
  | string (s : String)
  | truth (b : Bool)
  | date (s : String)
  | timestamp (s : String)
  | parsedTimestamp (s format : String)
  deriving DecidableEq, Repr

inductive Term
  | column (name : String)
  | constant (k : Constant)
  deriving DecidableEq, Repr

inductive Atom
  | compare (left : Term) (op : Comparison) (right : Constant)
  | isNull (t : Term)
  | isNotNull (t : Term)
  deriving DecidableEq, Repr

inductive Formula
  | atom (a : Atom)
  | never
  | always
  | and (f g : Formula)
  | or (f g : Formula)
  deriving DecidableEq, Repr

/-- The three truth values; only a row on which a condition holds is selected. -/
inductive Truth
  | holds
  | fails
  | unknown
  deriving DecidableEq, Repr

namespace Truth

def ofBool (b : Bool) : Truth := if b then .holds else .fails

def and : Truth → Truth → Truth
  | .fails, _ | _, .fails => .fails
  | .holds, .holds => .holds
  | _, _ => .unknown

def or : Truth → Truth → Truth
  | .holds, _ | _, .holds => .holds
  | .fails, .fails => .fails
  | _, _ => .unknown

@[simp] theorem ofBool_eq_holds {b : Bool} : ofBool b = .holds ↔ b = true := by
  cases b <;> decide

@[simp] theorem and_eq_holds {p q : Truth} : p.and q = .holds ↔ p = .holds ∧ q = .holds := by
  cases p <;> cases q <;> decide

@[simp] theorem or_eq_holds {p q : Truth} : p.or q = .holds ↔ p = .holds ∨ q = .holds := by
  cases p <;> cases q <;> decide

end Truth

namespace Formula

def truth (test : Atom → Truth) : Formula → Truth
  | .atom a => test a
  | .never => .fails
  | .always => .holds
  | .and f g => (f.truth test).and (g.truth test)
  | .or f g => (f.truth test).or (g.truth test)

def Holds (test : Atom → Truth) (f : Formula) : Prop := f.truth test = .holds

/-- The conjunction of formulas; of one, the formula itself. -/
def all : List Formula → Formula
  | [] => .always
  | [f] => f
  | f :: fs => .and f (all fs)

def any : List Formula → Formula
  | [] => .never
  | [f] => f
  | f :: fs => .or f (any fs)

variable {test : Atom → Truth}

@[simp] theorem holds_atom {a : Atom} : (Formula.atom a).Holds test ↔ test a = .holds := Iff.rfl

@[simp] theorem holds_all {fs : List Formula} : (all fs).Holds test ↔ ∀ f ∈ fs, f.Holds test := by
  induction fs with
  | nil => simp [all, Holds, truth]
  | cons f fs ih =>
    cases fs with
    | nil => simp [all]
    | cons g gs =>
      rw [List.forall_mem_cons, ← ih]
      exact Truth.and_eq_holds

@[simp] theorem holds_any {fs : List Formula} : (any fs).Holds test ↔ ∃ f ∈ fs, f.Holds test := by
  induction fs with
  | nil => simp [any, Holds, truth]
  | cons f fs ih =>
    cases fs with
    | nil => simp [any]
    | cons g gs =>
      simp only [List.mem_cons, exists_eq_or_imp] at ih ⊢
      rw [← ih]
      exact Truth.or_eq_holds

end Formula

/-- The pieces of a condition. -/
inductive Item
  | term (t : Term)
  | compare (op : Comparison)
  | isNull
  | isNotNull
  | and
  | or
  | opening
  | closing
  deriving DecidableEq, Repr

/-- The pieces that tokens make; a typed constant, a call and a null test are one piece each. -/
def items? : List Token → Option (List Item)
  | [] => some []
  | .name s :: rest => (.term (.column s) :: ·) <$> items? rest
  | .string s :: rest => (.term (.constant (.string s)) :: ·) <$> items? rest
  | .number cs :: rest => (.term (.constant (.number cs)) :: ·) <$> items? rest
  | .word .TRUE :: rest => (.term (.constant (.truth true)) :: ·) <$> items? rest
  | .word .FALSE :: rest => (.term (.constant (.truth false)) :: ·) <$> items? rest
  | .word .DATE :: .string s :: rest => (.term (.constant (.date s)) :: ·) <$> items? rest
  | .word .TIMESTAMP :: .string s :: rest =>
    (.term (.constant (.timestamp s)) :: ·) <$> items? rest
  | .word .TO_TIMESTAMP :: .opening :: .string s :: .comma :: .string format :: .closing :: rest =>
    (.term (.constant (.parsedTimestamp s format)) :: ·) <$> items? rest
  | .word .IS :: .word .NULL :: rest => (.isNull :: ·) <$> items? rest
  | .word .IS :: .word .NOT :: .word .NULL :: rest => (.isNotNull :: ·) <$> items? rest
  | .word .AND :: rest => (.and :: ·) <$> items? rest
  | .word .OR :: rest => (.or :: ·) <$> items? rest
  | .compare op :: rest => (.compare op :: ·) <$> items? rest
  | .opening :: rest => (.opening :: ·) <$> items? rest
  | .closing :: rest => (.closing :: ·) <$> items? rest
  | _ :: _ => none

/-- A condition that was read in part: the finished alternatives, and the conjuncts so far of the
one being read. -/
structure Level where
  alternatives : List Formula
  conjuncts : List Formula
  deriving DecidableEq, Repr

namespace Level

def empty : Level := ⟨[], []⟩

def add (l : Level) (fs : List Formula) : Level := { l with conjuncts := l.conjuncts ++ fs }

/-- OR ends the alternative that is being read. -/
def split (l : Level) : Level := ⟨l.alternatives ++ [.all l.conjuncts], []⟩

def formula (l : Level) : Formula := .any (l.alternatives ++ [.all l.conjuncts])

end Level

/-- What a reader of conditions waits for. -/
inductive Phase
  | test
  | operator (left : Term)
  | constant (left : Term) (op : Comparison)
  | connective
  deriving DecidableEq, Repr

/-- Where a reader of conditions is: the conditions around open parentheses, innermost first, and
the one being read. -/
structure Parsing where
  outer : List Level
  level : Level
  phase : Phase
  deriving DecidableEq, Repr

namespace Parsing

def start : Parsing := ⟨[], .empty, .test⟩

/-- Takes a whole test or parenthesis as the next conjunct. -/
def take (p : Parsing) (f : Formula) : Parsing := ⟨p.outer, p.level.add [f], .connective⟩

def step (p : Parsing) (i : Item) : Option Parsing :=
  match p.phase, i with
  | .test, .opening => some ⟨p.level :: p.outer, .empty, .test⟩
  | .test, .term t => some { p with phase := .operator t }
  | .operator t, .isNull => some (p.take (.atom (.isNull t)))
  | .operator t, .isNotNull => some (p.take (.atom (.isNotNull t)))
  | .operator t, .compare op => some { p with phase := .constant t op }
  | .constant t op, .term (.constant k) => some (p.take (.atom (.compare t op k)))
  | .connective, .and => some { p with phase := .test }
  | .connective, .or => some ⟨p.outer, p.level.split, .test⟩
  | .connective, .closing =>
    match p.outer with
    | [] => none
    | level :: outer => some (Parsing.take ⟨outer, level, .test⟩ p.level.formula)
  | _, _ => none

def finish (p : Parsing) : Option Formula :=
  if p.outer = [] ∧ p.phase = .connective then some p.level.formula else none

end Parsing

/-- The condition that tokens make up. -/
def parse? (ts : List Token) : Option Formula := do
  (← (← items? ts).foldlM Parsing.step .start).finish

/-- The condition that a text spells. -/
def condition? (quote : Char) (text : String) : Option Formula := do
  parse? (← lex? quote text)

end Pushdown.Sql
