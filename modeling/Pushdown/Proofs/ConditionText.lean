import Pushdown.Proofs.Condition
import Pushdown.Proofs.Literal

/-!
Conditions read back. The text of a condition is read as the tests it was put together from, alone
or as conjuncts among others.
-/
namespace Pushdown

open Sql

/-- The constant that a literal spells. What spells none is kept as it is written. -/
def Sql.Constant.ofLiteral (q : Char) (literal : String) : Constant :=
  match (lex? q literal).bind items? with
  | some [.term (.constant k)] => k
  | _ => .number literal.toList

theorem Sql.Constant.ofLiteral_eq {q : Char} {literal : String} {k : Constant}
    (h : Reads q literal k.tokens) : ofLiteral q literal = k := by
  simp [ofLiteral, h.lex?, (makes_constant k).items?]

/-! Reading. -/

/-- What a test says of the column. -/
def Test.atom (q : Char) (name : String) : Test → Atom
  | .compare op literal => .compare (.column name) op (.ofLiteral q literal)
  | .isNull => .isNull (.column name)
  | .isNotNull => .isNotNull (.column name)

/-- A comparison is readable when its literal is a constant. -/
def Test.Readable (q : Char) : Test → Prop
  | .compare _ literal => ∃ k : Constant, Reads q literal k.tokens
  | .isNull | .isNotNull => True

/-- The alternatives of a condition on a column; the one that never holds compares constants. -/
def Condition.alternatives (q : Char) (name : String) : Condition → List (List Atom)
  | .never => [[.compare (.constant (.number ['1'])) .eq (.number ['0'])]]
  | .anyOf disjuncts => disjuncts.map fun tests => tests.map (·.atom q name)

def Condition.Readable (q : Char) : Condition → Prop
  | .never => True
  | .anyOf disjuncts =>
    disjuncts ≠ [] ∧ ∀ tests ∈ disjuncts, tests ≠ [] ∧ ∀ t ∈ tests, t.Readable q

section
variable {q : Char} {dialect : Dialect} (name : String)

theorem Test.Readable.reads (hq : IsQuote q) {t : Test} (h : t.Readable q) :
    Reads q (t.text (Text.quoteIdentifier q.toString name)) (t.atom q name).tokens := by
  have hname := reads_name hq name
  cases t with
  | compare op literal =>
    obtain ⟨k, hk⟩ := h
    have hread := hname.separated (separates_comparison hq op) hk
    simp only [Test.text, Test.atom, Constant.ofLiteral_eq hk, Atom.tokens, Term.tokens]
    simp only [String.append_assoc] at hread ⊢
    simpa using hread
  | isNull =>
    have htest := (reads_word hq .IS).separated (separates_blank hq) (reads_word hq .NULL)
    have hread := hname.separated (separates_blank hq) htest
    have htext : " " ++ (Word.IS.text ++ " " ++ Word.NULL.text) = " IS NULL" := rfl
    rw [String.append_assoc, htext] at hread
    exact hread
  | isNotNull =>
    have htest := ((reads_word hq .IS).separated (separates_blank hq) (reads_word hq .NOT)).separated
      (separates_blank hq) (reads_word hq .NULL)
    have hread := hname.separated (separates_blank hq) htest
    have htext : " " ++ (Word.IS.text ++ " " ++ Word.NOT.text ++ " " ++ Word.NULL.text) =
        " IS NOT NULL" := rfl
    rw [String.append_assoc, htext] at hread
    exact hread

theorem reads_conjunctionText (hq : IsQuote q) {tests : List Test} (hne : tests ≠ [])
    (h : ∀ t ∈ tests, t.Readable q) :
    Reads q (Condition.conjunctionText (Text.quoteIdentifier q.toString name) tests)
      (conjunctionTokens (tests.map (·.atom q name))) := by
  have hmark : " " ++ Word.AND.text ++ " " = " AND " := rfl
  have hread := Reads.intercalate (separates_word hq .AND) hne fun t ht => (h t ht).reads name hq
  rw [hmark] at hread
  rw [Condition.conjunctionText, conjunctionTokens, List.map_map]
  exact hread

theorem reads_parenthesized (hq : IsQuote q) {text : String} {ts : List Token}
    (h : Reads q text ts) : Reads q ("(" ++ text ++ ")") ([.opening] ++ ts ++ [.closing]) :=
  ((separates_symbol (.inr (.inl rfl)) hq rfl).surround h
    (separates_symbol (.inr (.inr rfl)) hq rfl)).toReads

theorem reads_disjunctText (hq : IsQuote q) {tests : List Test} (hne : tests ≠ [])
    (h : ∀ t ∈ tests, t.Readable q) :
    Reads q (Condition.disjunctText (Text.quoteIdentifier q.toString name) tests)
      (disjunctTokens (tests.map (·.atom q name))) := by
  have hread := reads_conjunctionText name hq hne h
  unfold Condition.disjunctText disjunctTokens
  rw [List.length_map]
  split
  · exact reads_parenthesized hq hread
  · exact hread

theorem Dialect.Known.reads_never (hd : dialect.Known) (hq : IsQuote q) :
    Reads q dialect.alwaysFalse (alternativesTokens (Condition.never.alternatives q name)) := by
  have hdigit (c : Char) (hc : c.isDigit = true) : Reads q (String.ofList [c]) [.number [c]] := by
    have hone : Digits [c] := ⟨by simp, by simpa using hc⟩
    exact reads_number hq (.inl (isMagnitude_of_parts hone (.inl rfl) (.inl rfl)))
  have hread := (hdigit '1' rfl).separated (separates_comparison hq .eq) (hdigit '0' rfl)
  rcases hd with rfl | rfl <;> exact hread

/-- The text of a condition is read as its alternatives. -/
theorem Condition.Readable.reads (hd : dialect.Known) (hq : IsQuote q) {c : Condition}
    (h : c.Readable q) :
    Reads q (c.text dialect (Text.quoteIdentifier q.toString name))
      (alternativesTokens (c.alternatives q name)) := by
  unfold Condition.text
  split
  · exact hd.reads_never name hq
  · rename_i tests
    obtain ⟨hne, htests⟩ := h.2 tests (by simp)
    exact reads_conjunctionText name hq hne htests
  · rename_i disjuncts hmany
    have hmark : " " ++ Word.OR.text ++ " " = " OR " := rfl
    have hread := Reads.intercalate (separates_word hq .OR) h.1 fun tests ht =>
      reads_disjunctText name hq (h.2 tests ht).1 (h.2 tests ht).2
    rw [hmark] at hread
    have htokens : alternativesTokens ((anyOf disjuncts).alternatives q name) = [.opening] ++
        [.word .OR].intercalate (disjuncts.map fun tests =>
          disjunctTokens (tests.map (·.atom q name))) ++ [.closing] := by
      unfold alternativesTokens alternatives
      split
      · rename_i hone
        obtain ⟨tests, hdisjuncts, -⟩ := List.map_eq_singleton_iff.mp hone
        exact absurd hdisjuncts (hmany tests)
      · rw [List.map_map]
        rfl
    rw [htokens]
    exact reads_parenthesized hq hread

/-- The text of a condition, parsed alone or next to others, is its alternatives. -/
theorem Condition.Readable.conjuncts {c : Condition} (h : c.Readable q) :
    Conjuncts (alternativesTokens (c.alternatives q name))
      (alternativesFormulas (c.alternatives q name)) := by
  apply conjuncts_alternatives
  · cases c with
    | never => simp [alternatives]
    | anyOf disjuncts => simpa [alternatives] using h.1
  · cases c with
    | never => simp [alternatives]
    | anyOf disjuncts =>
      simp only [alternatives, List.forall_mem_map, ne_eq, List.map_eq_nil_iff]
      exact fun tests ht => (h.2 tests ht).1

/-- A condition that stands alone is its alternatives. -/
theorem Condition.Readable.condition?_text (hd : dialect.Known) (hq : IsQuote q) {c : Condition}
    (h : c.Readable q) :
    condition? q (c.text dialect (Text.quoteIdentifier q.toString name)) =
      some (.all (alternativesFormulas (c.alternatives q name))) := by
  rw [condition?, (h.reads name hd hq).lex?]
  exact (h.conjuncts name).parse?

end

/-! Whatever is compiled can be read. -/

section
variable {column : String} {dialect : Dialect} {type : LogicalType} {q : Char} (hd : dialect.Known) (hq : IsQuote q)
include hd hq

theorem Condition.readable_of_comparison {op : Comparison} {value : Option Value} {t : Test}
    (h : comparison column dialect type op value = .ok t) : t.Readable q := by
  obtain ⟨literal, hrender, rfl⟩ := comparison_eq_ok.mp h
  obtain ⟨k, hk, -⟩ := Literal.render_reads hd hq hrender
  exact ⟨k, hk⟩

theorem Condition.readable_of_rangeTests {r : Range} {tests : List Test}
    (h : rangeTests column dialect type r = .ok tests) :
    tests ≠ [] ∧ ∀ t ∈ tests, t.Readable q := by
  obtain ⟨lows, highs, hlows, hhighs, rfl⟩ := rangeTests_eq_ok.mp h
  have hlow := forall_of_forall₂ (lowTests_eq_ok.mp hlows) fun _ _ ht =>
    readable_of_comparison hd hq ht
  have hhigh := forall_of_forall₂ (highTests_eq_ok.mp hhighs) fun _ _ ht =>
    readable_of_comparison hd hq ht
  split
  · exact ⟨by simp, by simp [Test.Readable]⟩
  · rename_i hne
    refine ⟨by simpa using hne, ?_⟩
    intro t ht
    rcases List.mem_append.mp ht with ht | ht
    · exact hlow t ht
    · exact hhigh t ht

theorem Condition.readable_of_valueTests {value : Option Value} {tests : List Test}
    (h : valueTests column dialect type value = .ok tests) :
    tests ≠ [] ∧ ∀ t ∈ tests, t.Readable q := by
  obtain ⟨t, ht, rfl⟩ := valueTests_eq_ok.mp h
  exact ⟨by simp, by simpa using readable_of_comparison hd hq ht⟩

theorem Condition.Compiled.readable {d : Domain} {c : Condition}
    (h : Compiled column dialect type d c) : c.Readable q := by
  cases h with
  | none hset =>
    split
    · simp [Readable, Test.Readable]
    · trivial
  | notNull hset hnull => simp [Readable, Test.Readable]
  | @listed ranges values inhabited spanTests pointTests hset hspans hpoints =>
    have hspan := forall_of_forall₂ hspans fun _ _ => readable_of_rangeTests hd hq
    have hpoint := forall_of_forall₂ hpoints fun _ _ => readable_of_valueTests hd hq
    refine ⟨fun hnil => ?_, fun tests ht => ?_⟩
    · obtain ⟨rfl, rfl, -⟩ : spanTests = [] ∧ pointTests = [] ∧ _ := by simpa using hnil
      rw [List.forall₂_nil_right_iff] at hspans hpoints
      exact Domain.spans_append_points_ne_nil hset hspans hpoints
    · rcases List.mem_append.mp ht with ht | ht
      · rcases List.mem_append.mp ht with ht | ht
        · exact hspan tests ht
        · exact hpoint tests ht
      · split at ht
        · obtain rfl := List.mem_singleton.mp ht
          simp [Test.Readable]
        · cases ht

end

end Pushdown
