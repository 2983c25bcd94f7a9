import Mathlib.Data.Nat.Digits.Defs
import Pushdown.Proofs.Literal
import Pushdown.Proofs.Numeral
import Pushdown.Proofs.Trim

/-!
Integers given as text. A column of integers takes the text of a number in any script, with a sign,
leading zeros and underscores between digits, and has one literal for each number: the way its
ASCII digits are written.
-/
namespace Pushdown

open Text

/-- Digits of any script in a run, between two of which there may be a single underscore. -/
inductive Grouped : List Char → List Nat → Prop
  | one {c : Char} {d : Nat} (hc : digitValue? c = some d) : Grouped [c] [d]
  | next {c : Char} {d : Nat} {cs : List Char} {ds : List Nat} (hc : digitValue? c = some d)
    (hcs : Grouped cs ds) : Grouped (c :: cs) (d :: ds)
  | underscored {c : Char} {d : Nat} {cs : List Char} {ds : List Nat}
    (hc : digitValue? c = some d) (hcs : Grouped cs ds) : Grouped (c :: '_' :: cs) (d :: ds)

/-- An optional sign, with the unit that it stands for. -/
inductive Sign : List Char → Int → Prop
  | none : Sign [] 1
  | plus : Sign ['+'] 1
  | minus : Sign ['-'] (-1)

/-- Up to 4300 digits after an optional sign, and the integer they are worth. -/
inductive SignedDigits : List Char → Int → Prop
  | intro {sign run : List Char} {unit : Int} {ds : List Nat} (hsign : Sign sign unit)
    (hrun : Grouped run ds) (hcount : ds.length ≤ 4300) :
    SignedDigits (sign ++ run) (unit * (Nat.ofDigits 10 ds.reverse : Nat))

/-- The text has the digits of an integer, and nothing else but blanks around them. -/
def SpellsInteger (s : String) (n : Int) : Prop :=
  ∃ front core back, (∀ c ∈ front, isBlank c = true) ∧ (∀ c ∈ back, isBlank c = true) ∧
    s.toList = front ++ core ++ back ∧ SignedDigits core n

/-- An integer without a sign or digits that it could do without. -/
inductive Canonical : List Char → Prop
  | zero : Canonical ['0']
  | positive {cs : List Char} (hcs : Sql.Digits cs) (hhead : cs.head? ≠ some '0') : Canonical cs
  | negative {cs : List Char} (hcs : Sql.Digits cs) (hhead : cs.head? ≠ some '0') :
    Canonical ('-' :: cs)

/-- The same fault, found in another value. -/
def LiteralFault.blaming (value : Value) : LiteralFault → LiteralFault
  | .breach b => .breach { b with value := b.value.map fun _ => value }
  | fault => fault

variable {c : Char} {cs run sign : List Char} {ds : List Nat} {unit n : Int}

/-! Digits. -/

theorem ofDigits_eq (ds : List Nat) : ofDigits ds = Nat.ofDigits 10 ds.reverse := by
  induction ds using List.reverseRecOn with
  | nil => rfl
  | append_singleton ds d ih =>
    rw [List.reverse_append, List.reverse_singleton, List.singleton_append, Nat.ofDigits_cons, ← ih]
    simp [ofDigits, List.foldl_append, Nat.add_comm]

namespace Grouped

theorem digits_lt (h : Grouped run ds) : ∀ d ∈ ds, d < 10 := by
  induction h with
  | one hc => simpa using digitValue?_lt hc
  | next hc _ ih => exact List.forall_mem_cons.mpr ⟨digitValue?_lt hc, ih⟩
  | underscored hc _ ih => exact List.forall_mem_cons.mpr ⟨digitValue?_lt hc, ih⟩

theorem mem (h : Grouped run ds) : ∀ c ∈ run, c = '_' ∨ ∃ d, digitValue? c = some d := by
  induction h with
  | one hc => exact List.forall_mem_singleton.mpr (.inr ⟨_, hc⟩)
  | next hc _ ih => exact List.forall_mem_cons.mpr ⟨.inr ⟨_, hc⟩, ih⟩
  | underscored hc _ ih =>
    exact List.forall_mem_cons.mpr ⟨.inr ⟨_, hc⟩, List.forall_mem_cons.mpr ⟨.inl rfl, ih⟩⟩

theorem head (h : Grouped run ds) : ∃ c rest d, run = c :: rest ∧ digitValue? c = some d := by
  cases h with
  | one hc => exact ⟨_, _, _, rfl, hc⟩
  | next hc => exact ⟨_, _, _, rfl, hc⟩
  | underscored hc => exact ⟨_, _, _, rfl, hc⟩

theorem last (h : Grouped run ds) : ∃ rest c d, run = rest ++ [c] ∧ digitValue? c = some d := by
  induction h with
  | one hc => exact ⟨[], _, _, rfl, hc⟩
  | @next c _ _ _ _ _ ih =>
    obtain ⟨rest, last, d, rfl, hlast⟩ := ih
    exact ⟨c :: rest, last, d, rfl, hlast⟩
  | @underscored c _ _ _ _ _ ih =>
    obtain ⟨rest, last, d, rfl, hlast⟩ := ih
    exact ⟨c :: '_' :: rest, last, d, rfl, hlast⟩

end Grouped

theorem groupedDigits_eq_some : groupedDigits digitValue? run = some ds ↔ Grouped run ds := by
  constructor
  · intro h
    induction run using groupedDigits.induct generalizing ds with
    | case1 => cases h
    | case2 c =>
      obtain ⟨d, hc, rfl⟩ := Option.map_eq_some_iff.mp h
      exact .one hc
    | case3 c rest ih =>
      obtain ⟨d, hc, h⟩ := Option.bind_eq_some_iff.mp h
      obtain ⟨ds, hrest, h⟩ := Option.bind_eq_some_iff.mp h
      cases h
      exact .underscored hc (ih hrest)
    | case4 c rest hne hunder ih =>
      rw [groupedDigits] at h
      · obtain ⟨d, hc, h⟩ := Option.bind_eq_some_iff.mp h
        obtain ⟨ds, hrest, h⟩ := Option.bind_eq_some_iff.mp h
        cases h
        exact .next hc (ih hrest)
      · exact hne
      · exact hunder
  · intro h
    induction h with
    | one hc => simp [groupedDigits, hc]
    | next hc hcs ih =>
      obtain ⟨c', rest, d', rfl, hc'⟩ := hcs.head
      have hunder : ∀ rest', c' :: rest ≠ '_' :: rest' := fun rest' heq =>
        ne_of_digitValue? hc' (by decide) (List.cons.inj heq).1
      rw [groupedDigits, hc, ih]
      · rfl
      · simp
      · exact hunder
    | underscored hc _ ih => simp [groupedDigits, hc, ih]

/-! Signs. -/

theorem signed_ofDigits (negative : Bool) (ds : List Nat) : signed negative (ofDigits ds) =
    signed negative 1 * (Nat.ofDigits 10 ds.reverse : Nat) := by
  rw [ofDigits_eq]
  cases negative <;> simp [signed]

theorem sign_splitSign (cs : List Char) :
    ∃ sign, Sign sign (signed (splitSign cs).1 1) ∧ cs = sign ++ (splitSign cs).2 := by
  unfold splitSign
  split
  · exact ⟨['-'], .minus, rfl⟩
  · exact ⟨['+'], .plus, rfl⟩
  · exact ⟨[], .none, rfl⟩

theorem splitSign_append (hsign : Sign sign unit) (hrun : Grouped run ds) :
    ∃ negative, splitSign (sign ++ run) = (negative, run) ∧ signed negative 1 = unit := by
  cases hsign with
  | none =>
    obtain ⟨c, rest, d, rfl, hc⟩ := hrun.head
    exact ⟨false, splitSign_of_digitValue? hc, rfl⟩
  | plus => exact ⟨false, rfl, rfl⟩
  | minus => exact ⟨true, rfl, rfl⟩

/-! Reading. -/

theorem SignedDigits.trimmed (h : SignedDigits cs n) : Trimmed isBlank cs := by
  obtain ⟨hsign, hrun, -⟩ := h
  obtain ⟨c, rest, d, rfl, hc⟩ := hrun.head
  obtain ⟨front, c', d', hlast, hc'⟩ := hrun.last
  refine ⟨?_, ?_⟩
  · cases hsign with
    | none => simpa using isBlank_of_digitValue? hc
    | plus => exact fun c hc => Option.some.inj hc ▸ rfl
    | minus => exact fun c hc => Option.some.inj hc ▸ rfl
  · rw [hlast]
    simpa using isBlank_of_digitValue? hc'

theorem readInteger_of_signedDigits (h : SignedDigits cs n) : readInteger cs = .ok n := by
  have htrim : trimBy isSpace cs = cs :=
    (h.trimmed.mono fun _ => isBlank_of_isSpace).trimBy_eq
  cases h with
  | @intro sign run _ ds hsign hrun hcount =>
    obtain ⟨negative, hsplit, rfl⟩ := splitSign_append hsign hrun
    have hspan : run.span (fun c => c == '_' || (digitValue? c).isSome) = (run, []) := by
      refine span_of_forall fun c hc => ?_
      rcases hrun.mem c hc with rfl | ⟨d, hd⟩
      · rfl
      · simp [hd]
    have hlimit : ¬maxNumeralDigits < ds.length := Nat.not_lt.mpr hcount
    rw [readInteger, htrim, hsplit]
    simp only [hspan, groupedDigits_eq_some.mpr hrun, if_neg hlimit]
    rw [signed_ofDigits]
    rfl

/-- Trimmed text is read just if it is the digits of an integer after its sign. -/
theorem readInteger_eq_ok (ht : Trimmed isSpace cs) :
    readInteger cs = .ok n ↔ SignedDigits cs n := by
  refine ⟨fun h => ?_, readInteger_of_signedDigits⟩
  obtain ⟨sign, hsign, hcs⟩ := sign_splitSign cs
  unfold readInteger at h
  rw [ht.trimBy_eq] at h
  generalize splitSign cs = parts at h hsign hcs
  obtain ⟨negative, body⟩ := parts
  dsimp only at h hsign hcs
  rw [List.span_eq_takeWhile_dropWhile] at h
  dsimp only at h
  split at h
  · cases h
  · rename_i ds hrun
    split_ifs at h with hcount hrest
    -- Nothing follows the run, so it is all that stands after the sign.
    have hbody := body.takeWhile_append_dropWhile (p := fun c => c == '_' || (digitValue? c).isSome)
    rw [List.isEmpty_iff.mp hrest, List.append_nil] at hbody
    rw [hbody] at hrun
    rw [hcs, ← Except.ok.inj h, signed_ofDigits]
    exact .intro hsign (groupedDigits_eq_some.mp hrun) (Nat.not_lt.mp hcount)

/-! Writing. -/

theorem head_toDigits_ne {n : Nat} (h : 0 < n) : (Nat.toDigits 10 n).head? ≠ some '0' := by
  induction n using Nat.strong_induction_on with
  | _ n ih =>
    by_cases hn : n < 10
    · have hdigit : ∀ d < 10, 0 < d → Nat.digitChar d ≠ '0' := by decide
      rw [Nat.toDigits_of_lt_base hn]
      simpa using hdigit n hn h
    · have hshort := ih (n / 10) (by omega) (by omega)
      rw [Nat.toDigits_of_base_le (by decide) (Nat.not_lt.mp hn),
        List.head?_append_of_ne_nil _ Nat.toDigits_ne_nil]
      exact hshort

theorem canonical_toString (n : Int) : Canonical (toString n).toList := by
  rw [toString_int_toList]
  split
  · exact .negative (Sql.digits_toDigits _) (head_toDigits_ne (by omega))
  · by_cases hn : n = 0
    · rw [hn]
      exact .zero
    · exact .positive (Sql.digits_toDigits _) (head_toDigits_ne (by omega))

theorem grouped_toDigits {n : Nat} (h : n < 10 ^ maxNumeralDigits) :
    ∃ ds, Grouped (Nat.toDigits 10 n) ds ∧ ds.length ≤ 4300 ∧ Nat.ofDigits 10 ds.reverse = n := by
  have hread := groupedDigits_of_digits Nat.toDigits_ne_nil (toDigits_isDigit n)
  have hlength : (Nat.toDigits 10 n).length ≤ maxNumeralDigits :=
    (Nat.length_toDigits_le_iff (by decide) (by decide)).mpr h
  refine ⟨_, groupedDigits_eq_some.mp hread, ?_, ?_⟩
  · rw [List.length_map]
    exact hlength
  · rw [← ofDigits_eq, ofDigits_map, Nat.ofDigitChars_toDigits (by decide) (by decide)]

/-- The text of an integer spells it, unless it has too many digits. -/
theorem signedDigits_toString (h : n.natAbs < 10 ^ maxNumeralDigits) :
    SignedDigits (toString n).toList n := by
  obtain ⟨ds, hrun, hcount, hvalue⟩ := grouped_toDigits h
  clear h
  rw [toString_int_toList]
  split
  · have hn : (-1 : Int) * (Nat.ofDigits 10 ds.reverse : Nat) = n := by omega
    have := SignedDigits.intro .minus hrun hcount
    rwa [hn] at this
  · have hn : (1 : Int) * (Nat.ofDigits 10 ds.reverse : Nat) = n := by omega
    have := SignedDigits.intro .none hrun hcount
    rwa [hn] at this

theorem SignedDigits.natAbs_lt (h : SignedDigits cs n) : n.natAbs < 10 ^ maxNumeralDigits := by
  cases h with
  | @intro _ _ unit ds hsign hrun hcount =>
    have hunit : unit.natAbs = 1 := by cases hsign <;> rfl
    rw [Int.natAbs_mul, hunit, Nat.one_mul, Int.natAbs_natCast, ← ofDigits_eq]
    exact (ofDigits_lt hrun.digits_lt).trans_le (Nat.pow_le_pow_right (by decide) hcount)

namespace Literal

variable {column s : String} {dialect : Dialect} {type : LogicalType}

theorem integerOf_text_eq_ok : integerOf (some (.text s)) = .ok n ↔ SpellsInteger s n := by
  have hread : integerOf (some (.text s)) = .ok n ↔ readInteger (trimChars s.toList) = .ok n := by
    cases hr : readInteger (trimChars s.toList) <;> simp [integerOf, hr]
  have htrimmed : Trimmed isBlank (trimChars s.toList) := trimmed_trimBy isBlank s.toList
  rw [hread, readInteger_eq_ok (htrimmed.mono fun _ => isBlank_of_isSpace)]
  constructor
  · intro h
    obtain ⟨-, front, back, hfront, hback, hs⟩ := trimBy_eq_iff.mp (rfl : trimChars s.toList = _)
    exact ⟨front, _, back, hfront, hback, hs, h⟩
  · rintro ⟨front, core, back, hfront, hback, hs, h⟩
    rw [hs, trimChars, trimBy_append h.trimmed hfront hback]
    exact h

theorem integerOf_text_of_not (h : ¬∃ n, SpellsInteger s n) :
    integerOf (some (.text s)) = .error .malformedInteger := by
  have hrefused (n : Int) : integerOf (some (.text s)) ≠ .ok n := fun hok =>
    h ⟨n, integerOf_text_eq_ok.mp hok⟩
  rw [integerOf] at hrefused ⊢
  split
  · rename_i n hread
    rw [hread] at hrefused
    exact absurd rfl (hrefused n)
  · rfl

theorem render_bigint {value : Option Value} (h : integerOf value = .ok n) :
    render column value dialect .bigint = .ok (toString n) := by
  simp [render, h, orBreach]

/-- Only the value that is blamed differs between an integer and a text that spells it. -/
theorem render_text_of_spells (h : SpellsInteger s n) (htype : type = .date ∨ type = .timestamp) :
    render column (some (.text s)) dialect type =
      (render column (some (.int n)) dialect type).mapError (·.blaming (.text s)) := by
  have htext := integerOf_text_eq_ok.mpr h
  have hint : integerOf (some (.int n)) = .ok n := rfl
  have hfill (template text : String) : fillLiteral template text =
      (fillLiteral template text).mapError (·.blaming (.text s)) := by
    unfold fillLiteral
    split <;> rfl
  rcases htype with rfl | rfl
  · simp only [render, htext, hint, orBreach, ok_bind]
    split
    · exact hfill _ _
    · rfl
  · simp only [render, htext, hint, orBreach, ok_bind]
    split
    · exact hfill _ _
    · rfl

/-- A text fits a column of integers just if it spells one. Its literal is that of the integer, in
its shortest spelling, and no other integer has the same. In a column of days or of instants the
text fares as the integer does. -/
theorem reads_integer_text (column : String) (dialect : Dialect) :
    (∀ s, (∃ literal, render column (some (.text s)) dialect .bigint = .ok literal) ↔
      ∃ n, SpellsInteger s n) ∧
    (∀ s, (¬∃ n, SpellsInteger s n) → render column (some (.text s)) dialect .bigint =
      .error (.breach ⟨column, .malformedInteger, some (.text s)⟩)) ∧
    (∀ s n, SpellsInteger s n → ∃ literal,
      render column (some (.text s)) dialect .bigint = .ok literal ∧
      render column (some (.int n)) dialect .bigint = .ok literal ∧
      Canonical literal.toList ∧ Sql.integer? literal.toList = some n ∧ SpellsInteger literal n) ∧
    (∀ s t m n, SpellsInteger s m → SpellsInteger t n →
      (render column (some (.text s)) dialect .bigint =
        render column (some (.text t)) dialect .bigint ↔ m = n)) ∧
    ∀ s n type, SpellsInteger s n → type = .date ∨ type = .timestamp →
      render column (some (.text s)) dialect type =
        (render column (some (.int n)) dialect type).mapError (·.blaming (.text s)) := by
  have hok {s : String} {n : Int} (h : SpellsInteger s n) :
      render column (some (.text s)) dialect .bigint = .ok (toString n) :=
    render_bigint (integerOf_text_eq_ok.mpr h)
  have hrefused (s : String) (h : ¬∃ n, SpellsInteger s n) :
      render column (some (.text s)) dialect .bigint =
        .error (.breach ⟨column, .malformedInteger, some (.text s)⟩) := by
    simp [render, integerOf_text_of_not h, orBreach, breach]
  refine ⟨fun s => ⟨?_, ?_⟩, hrefused, fun s n h => ?_, fun s t m n hs ht => ?_,
    fun s n type => render_text_of_spells⟩
  · rintro ⟨literal, hliteral⟩
    by_contra hnone
    rw [hrefused s hnone] at hliteral
    cases hliteral
  · rintro ⟨n, hn⟩
    exact ⟨_, hok hn⟩
  · obtain ⟨_, core, _, -, -, -, hcore⟩ := id h
    have hwritten := signedDigits_toString hcore.natAbs_lt
    refine ⟨toString n, hok h, render_bigint rfl, canonical_toString n, integer?_toString n, [], _,
      [], by simp, by simp, by simp, hwritten⟩
  · rw [hok hs, hok ht]
    constructor
    · intro h
      have hread := integer?_toString n
      rw [← Except.ok.inj h, integer?_toString] at hread
      exact Option.some.inj hread
    · rintro rfl
      rfl

/-- Digits of two scripts with zeros in front, between a space and a separator. -/
theorem reads_integer_text_scripts :
    SpellsInteger "\u00A0-٠٠٤_2\x1F" (-42) ∧
      render "n" (some (.text "\u00A0-٠٠٤_2\x1F")) .generic .bigint = .ok "-42" ∧
      ¬∃ n, SpellsInteger "4__2" n := by
  obtain ⟨haccepted, -, hspelled, -⟩ := reads_integer_text "n" .generic
  have hzero : digitValue? '٠' = some 0 := rfl
  have hfour : digitValue? '٤' = some 4 := rfl
  have htwo : digitValue? '2' = some 2 := rfl
  have hrun : Grouped "٠٠٤_2".toList [0, 0, 4, 2] :=
    .next hzero (.next hzero (.underscored hfour (.one htwo)))
  have hspells : SpellsInteger "\u00A0-٠٠٤_2\x1F" (-42) :=
    ⟨['\u00A0'], "-٠٠٤_2".toList, ['\x1F'], List.forall_mem_singleton.mpr rfl,
      List.forall_mem_singleton.mpr rfl, rfl, .intro .minus hrun (by decide)⟩
  refine ⟨hspells, ?_, fun h => ?_⟩
  · obtain ⟨literal, htext, hint, -⟩ := hspelled _ _ hspells
    rw [htext, ← hint]
    rfl
  · obtain ⟨literal, hliteral⟩ := (haccepted _).mpr h
    have hrefused : integerOf (some (.text "4__2")) = .error .malformedInteger := rfl
    simp [render, hrefused, orBreach] at hliteral

end Literal
end Pushdown
