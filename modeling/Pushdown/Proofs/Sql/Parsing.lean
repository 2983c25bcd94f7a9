import Pushdown.Proofs.Sql.Formula

/-!
Conditions written as tokens are read as what they were written from. Conjuncts can stand side by
side without parentheses, and alternatives need one pair around all of them.
-/
namespace Pushdown.Sql

def Constant.tokens : Constant → List Token
  | .number cs => [.number cs]
  | .string s => [.string s]
  | .truth b => [.word (if b then .TRUE else .FALSE)]
  | .date s => [.word .DATE, .string s]
  | .timestamp s => [.word .TIMESTAMP, .string s]
  | .parsedTimestamp s format =>
    [.word .TO_TIMESTAMP, .opening, .string s, .comma, .string format, .closing]

def Term.tokens : Term → List Token
  | .column name => [.name name]
  | .constant k => k.tokens

def Atom.tokens : Atom → List Token
  | .compare left op right => left.tokens ++ .compare op :: right.tokens
  | .isNull t => t.tokens ++ [.word .IS, .word .NULL]
  | .isNotNull t => t.tokens ++ [.word .IS, .word .NOT, .word .NULL]

/-! Pieces. -/

/-- The tokens make up the pieces, whatever comes after them. -/
def Makes (ts : List Token) (is : List Item) : Prop :=
  ∀ rest, items? (ts ++ rest) = (is ++ ·) <$> items? rest

theorem makes_constant (k : Constant) : Makes k.tokens [.term (.constant k)] := by
  intro rest
  rcases k with _ | _ | b | _ | _ | _
  case truth => cases b <;> rfl
  all_goals rfl

theorem makes_term (t : Term) : Makes t.tokens [.term t] := by
  cases t with
  | column name => intro rest; rfl
  | constant k => exact makes_constant k

theorem Makes.append {ts ts' : List Token} {is is' : List Item} (h : Makes ts is)
    (h' : Makes ts' is') : Makes (ts ++ ts') (is ++ is') := by
  intro rest
  rw [List.append_assoc, h, h']
  cases items? rest <;> simp

theorem makes_word_and : Makes [.word .AND] [.and] := fun _ => rfl

theorem makes_word_or : Makes [.word .OR] [.or] := fun _ => rfl

theorem makes_opening : Makes [.opening] [.opening] := fun _ => rfl

theorem makes_closing : Makes [.closing] [.closing] := fun _ => rfl

theorem Makes.items? {ts : List Token} {is : List Item} (h : Makes ts is) :
    Sql.items? ts = some is := by
  simpa [Sql.items?] using h []

/-! Conjuncts. -/

/-- The pieces are conjuncts in every place where a test can begin. -/
def Adds (is : List Item) (fs : List Formula) : Prop :=
  ∀ outer level, is.foldlM Parsing.step ⟨outer, level, .test⟩ =
    some ⟨outer, level.add fs, .connective⟩

/-- The tokens are conjuncts of a condition. -/
def Conjuncts (ts : List Token) (fs : List Formula) : Prop := ∃ is, Makes ts is ∧ Adds is fs

theorem conjuncts_atom (a : Atom) : Conjuncts a.tokens [.atom a] := by
  cases a with
  | compare left op right =>
    have hop : Makes [.compare op] [.compare op] := fun _ => rfl
    exact ⟨_, (makes_term left).append (hop.append (makes_constant right)), fun _ _ => rfl⟩
  | isNull t =>
    have htest : Makes [.word .IS, .word .NULL] [.isNull] := fun _ => rfl
    exact ⟨_, (makes_term t).append htest, fun _ _ => rfl⟩
  | isNotNull t =>
    have htest : Makes [.word .IS, .word .NOT, .word .NULL] [.isNotNull] := fun _ => rfl
    exact ⟨_, (makes_term t).append htest, fun _ _ => rfl⟩

/-- AND goes on with the alternative that is being read. -/
theorem Conjuncts.and {ts ts' : List Token} {fs fs' : List Formula} (h : Conjuncts ts fs)
    (h' : Conjuncts ts' fs') : Conjuncts (ts ++ [.word .AND] ++ ts') (fs ++ fs') := by
  obtain ⟨is, hmakes, hadds⟩ := h
  obtain ⟨is', hmakes', hadds'⟩ := h'
  refine ⟨_, (hmakes.append makes_word_and).append hmakes', ?_⟩
  intro outer level
  have hand : Parsing.step ⟨outer, level.add fs, .connective⟩ .and =
      some ⟨outer, level.add fs, .test⟩ := rfl
  have hlevel : (level.add fs).add fs' = level.add (fs ++ fs') := by simp [Level.add]
  simp [List.foldlM_append, hadds _ _, hand, hadds' _ _, hlevel]

section
variable {α : Type} {f : α → List Token} {g : α → List Formula} {xs : List α}

theorem conjuncts_all (hne : xs ≠ []) (h : ∀ x ∈ xs, Conjuncts (f x) (g x)) :
    Conjuncts ([.word .AND].intercalate (xs.map f)) (xs.flatMap g) := by
  induction xs with
  | nil => exact absurd rfl hne
  | cons x rest ih =>
    have hx := h x (by simp)
    cases rest with
    | nil => simpa [List.intercalate] using hx
    | cons y rest =>
      have hrest := ih (by simp) fun z hz => h z (by simp [hz])
      have := hx.and hrest
      simpa [List.intercalate] using this

/-- Alternatives with OR between them, read after those that are finished already. -/
theorem alternatives_read (hne : xs ≠ []) (h : ∀ x ∈ xs, Conjuncts (f x) (g x)) :
    ∃ is, Makes ([.word .OR].intercalate (xs.map f)) is ∧ ∀ outer done, ∃ level,
      is.foldlM Parsing.step ⟨outer, ⟨done, []⟩, .test⟩ = some ⟨outer, level, .connective⟩ ∧
      level.formula = .any (done ++ xs.map fun x => .all (g x)) := by
  induction xs with
  | nil => exact absurd rfl hne
  | cons x rest ih =>
    obtain ⟨is, hmakes, hadds⟩ := h x (by simp)
    cases rest with
    | nil =>
      refine ⟨is, by simpa [List.intercalate] using hmakes, ?_⟩
      intro outer done
      exact ⟨_, hadds outer ⟨done, []⟩, rfl⟩
    | cons y rest =>
      obtain ⟨is', hmakes', hread⟩ := ih (by simp) fun z hz => h z (by simp [hz])
      have hall := (hmakes.append makes_word_or).append hmakes'
      refine ⟨_, by simpa [List.intercalate] using hall, ?_⟩
      intro outer done
      obtain ⟨level, hlevel, hformula⟩ := hread outer (done ++ [.all (g x)])
      refine ⟨level, ?_, by simpa using hformula⟩
      have hor : Parsing.step ⟨outer, (Level.mk done []).add (g x), .connective⟩ .or =
          some ⟨outer, ⟨done ++ [.all (g x)], []⟩, .test⟩ := rfl
      simp [List.foldlM_append, hadds _ _, hor, hlevel]

/-- Alternatives in parentheses are one conjunct. -/
theorem conjuncts_any (hne : xs ≠ []) (h : ∀ x ∈ xs, Conjuncts (f x) (g x)) :
    Conjuncts ([.opening] ++ [.word .OR].intercalate (xs.map f) ++ [.closing])
      [.any (xs.map fun x => .all (g x))] := by
  obtain ⟨is, hmakes, hread⟩ := alternatives_read hne h
  refine ⟨_, (makes_opening.append hmakes).append makes_closing, ?_⟩
  intro outer level
  obtain ⟨inner, hinner, hformula⟩ := hread (level :: outer) []
  have hopening : Parsing.step ⟨outer, level, .test⟩ .opening =
      some ⟨level :: outer, ⟨[], []⟩, .test⟩ := rfl
  have hclosing : Parsing.step ⟨level :: outer, inner, .connective⟩ .closing =
      some ⟨outer, level.add [inner.formula], .connective⟩ := rfl
  simp [List.foldlM_append, hopening, hinner, hclosing, hformula]

end

/-- Conjuncts in parentheses are one conjunct. -/
theorem Conjuncts.parenthesized {ts : List Token} {fs : List Formula} (h : Conjuncts ts fs) :
    Conjuncts ([.opening] ++ ts ++ [.closing]) [.all fs] := by
  have hone : Conjuncts ([.opening] ++ [.word .OR].intercalate ([()].map fun _ => ts) ++ [.closing])
      [.any ([()].map fun _ => .all fs)] := conjuncts_any (by simp) fun _ _ => h
  simpa [List.intercalate, Formula.any] using hone

theorem Conjuncts.parse? {ts : List Token} {fs : List Formula} (h : Conjuncts ts fs) :
    parse? ts = some (.all fs) := by
  obtain ⟨is, hmakes, hadds⟩ := h
  have hrun : is.foldlM Parsing.step .start = some ⟨[], Level.empty.add fs, .connective⟩ :=
    hadds [] .empty
  rw [Sql.parse?, hmakes.items?, Option.bind_eq_bind, Option.bind_some, hrun]
  rfl

/-! Alternatives of conjunctions of single tests. -/

def conjunctionTokens (atoms : List Atom) : List Token :=
  [.word .AND].intercalate (atoms.map Atom.tokens)

def disjunctTokens (atoms : List Atom) : List Token :=
  if 1 < atoms.length then [.opening] ++ conjunctionTokens atoms ++ [.closing]
  else conjunctionTokens atoms

def alternativesTokens : List (List Atom) → List Token
  | [atoms] => conjunctionTokens atoms
  | alternatives =>
    [.opening] ++ [.word .OR].intercalate (alternatives.map disjunctTokens) ++ [.closing]

/-- The conjuncts that alternatives add to a condition: a lone alternative stands without
parentheses, and its tests are conjuncts of their own. -/
def alternativesFormulas : List (List Atom) → List Formula
  | [atoms] => atoms.map .atom
  | alternatives => [.any (alternatives.map fun atoms => .all (atoms.map .atom))]

variable {atoms : List Atom} {alternatives : List (List Atom)}

theorem conjuncts_conjunction (hne : atoms ≠ []) :
    Conjuncts (conjunctionTokens atoms) (atoms.map .atom) := by
  have hall : Conjuncts (conjunctionTokens atoms) (atoms.flatMap fun a => [.atom a]) :=
    conjuncts_all hne fun a _ => conjuncts_atom a
  rwa [← List.map_eq_flatMap] at hall

theorem conjuncts_disjunct (hne : atoms ≠ []) : Conjuncts (disjunctTokens atoms)
    (if 1 < atoms.length then [.all (atoms.map .atom)] else atoms.map .atom) := by
  unfold disjunctTokens
  split
  · exact (conjuncts_conjunction hne).parenthesized
  · exact conjuncts_conjunction hne

theorem conjuncts_alternatives (hne : alternatives ≠ []) (h : ∀ atoms ∈ alternatives, atoms ≠ []) :
    Conjuncts (alternativesTokens alternatives) (alternativesFormulas alternatives) := by
  have hall (atoms : List Atom) : Formula.all (if 1 < atoms.length then
      [.all (atoms.map .atom)] else atoms.map .atom) = .all (atoms.map .atom) := by
    split <;> rfl
  have hany := conjuncts_any hne fun atoms hatoms => conjuncts_disjunct (h atoms hatoms)
  simp only [hall] at hany
  unfold alternativesTokens alternativesFormulas
  split
  · exact conjuncts_conjunction (h _ (by simp))
  · exact hany

theorem holds_alternatives {test : Atom → Truth} :
    (Formula.all (alternativesFormulas alternatives)).Holds test ↔
      ∃ atoms ∈ alternatives, ∀ a ∈ atoms, test a = .holds := by
  unfold alternativesFormulas
  split
  · simp
  · rw [Formula.holds_all, List.forall_mem_singleton, Formula.holds_any]
    constructor
    · rintro ⟨f, hf, hholds⟩
      obtain ⟨atoms, hatoms, rfl⟩ := List.mem_map.mp hf
      exact ⟨atoms, hatoms, by simpa using hholds⟩
    · rintro ⟨atoms, hatoms, hholds⟩
      exact ⟨_, List.mem_map.mpr ⟨atoms, hatoms, rfl⟩, by simpa using hholds⟩

section
variable {β : Type} {f : Token → Option β}

theorem filterMap_intercalate {mark : Token} (hf : f mark = none) (parts : List (List Token)) :
    ([mark].intercalate parts).filterMap f = parts.flatMap (List.filterMap f) := by
  induction parts with
  | nil => rfl
  | cons part rest ih =>
    cases rest with
    | nil => simp [List.intercalate]
    | cons next rest =>
      have hcons : [mark].intercalate (part :: next :: rest) =
          part ++ [mark] ++ [mark].intercalate (next :: rest) := by simp [List.intercalate]
      rw [hcons, List.filterMap_append, List.filterMap_append, ih]
      simp [hf]

/-- What is looked for in the tests of alternatives alone is found there in order. -/
theorem filterMap_alternatives (hand : f (.word .AND) = none) (hor : f (.word .OR) = none)
    (hopening : f .opening = none) (hclosing : f .closing = none) :
    (alternativesTokens alternatives).filterMap f =
      alternatives.flatten.flatMap fun a => a.tokens.filterMap f := by
  have hconjunction (atoms : List Atom) : (conjunctionTokens atoms).filterMap f =
      atoms.flatMap fun a => a.tokens.filterMap f := by
    rw [conjunctionTokens, filterMap_intercalate hand, List.flatMap_map]
  have hdisjunct (atoms : List Atom) : (disjunctTokens atoms).filterMap f =
      atoms.flatMap fun a => a.tokens.filterMap f := by
    unfold disjunctTokens
    split
    · simp [hconjunction, hopening, hclosing]
    · exact hconjunction atoms
  unfold alternativesTokens
  split
  · simp [hconjunction]
  · rw [← List.flatMap_id, List.flatMap_assoc]
    simp [filterMap_intercalate hor, hopening, hclosing, List.flatMap_map, hdisjunct]

end

end Pushdown.Sql
