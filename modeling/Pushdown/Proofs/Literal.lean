import Pushdown.Oracle.Types
import Pushdown.Proofs.Except
import Pushdown.Proofs.Membership
import Pushdown.Proofs.Sql.Lexing
import Pushdown.Proofs.Sql.Parsing
import Pushdown.Proofs.Template

/-!
Literals read back. In either dialect the literal of a value is a single constant, and beside a
datum of the column's type the constant stands for the value that was written.
-/
namespace Pushdown

open Sql

/-! Numbers. -/

theorem isMagnitude_toDigits (n : Nat) : IsMagnitude (Nat.toDigits 10 n) := by
  have := isMagnitude_of_parts (digits_toDigits n) (.inl rfl) (.inl rfl)
  simpa using this

theorem toString_int_toList (n : Int) :
    (toString n).toList = if n < 0 then '-' :: Nat.toDigits 10 n.natAbs
      else Nat.toDigits 10 n.natAbs := by
  have hrepr (m : Nat) : (Nat.repr m).toList = Nat.toDigits 10 m := by simp [Nat.repr]
  cases n with
  | ofNat m =>
    have hpos : ¬ (Int.ofNat m < 0) := by simp
    rw [if_neg hpos]
    exact hrepr m
  | negSucc m =>
    rw [if_pos (Int.negSucc_lt_zero m), Int.natAbs_negSucc, ← hrepr]
    exact String.toList_append

theorem isNumber_int (n : Int) : IsNumber (toString n).toList := by
  rw [toString_int_toList]
  split
  · exact .inr ⟨_, isMagnitude_toDigits _, rfl⟩
  · exact .inl (isMagnitude_toDigits _)

theorem integer?_of_digits? {cs : List Char} {n : Nat} (h : digits? cs = some n) :
    integer? cs = some (n : Int) := by
  unfold integer?
  split
  · simp [digits?] at h
  · simp [h]

theorem integer?_toString (n : Int) : integer? (toString n).toList = some n := by
  rw [toString_int_toList]
  split
  · have hneg : -(n.natAbs : Int) = n := by omega
    simp only [integer?, digits?_toDigits]
    exact congrArg some hneg
  · have hpos : (n.natAbs : Int) = n := by omega
    rw [integer?_of_digits? (digits?_toDigits _), hpos]

theorem digits_zero : Digits ['0'] := ⟨by simp, by simp⟩

theorem isMagnitude_decimalText {digits : List Char} (h : Digits digits) (point : Int) :
    IsMagnitude (decimalText digits point) := by
  have hlen := List.length_pos_iff.mpr h.1
  unfold decimalText
  dsimp only
  split
  · split
    · have := isMagnitude_of_parts digits_zero
        (.inr ⟨_, h.zeros_append (-point).toNat, rfl⟩) (.inl rfl)
      simpa using this
    · split
      · have := isMagnitude_of_parts (h.append_zeros (point.toNat - digits.length))
          (.inr ⟨_, digits_zero, rfl⟩) (.inl rfl)
        simpa using this
      · have := isMagnitude_of_parts (h.take (n := point.toNat) (by omega))
          (.inr ⟨_, h.drop (n := point.toNat) (by omega), rfl⟩) (.inl rfl)
        simpa using this
  · rw [List.append_assoc (_ ++ _)]
    refine isMagnitude_of_parts (h.take (by decide)) ?_ (.inr ⟨_, _, ?_, ?_, rfl⟩)
    · split
      · exact .inl rfl
      · rename_i ht
        have hone : 1 < digits.length := Nat.lt_of_not_le fun hle =>
          ht (by rw [List.drop_eq_nil_of_le hle]; rfl)
        exact .inr ⟨_, h.drop hone, rfl⟩
    · split
      · exact .inr rfl
      · exact .inl rfl
    · exact (digits_toDigits _).zeros_append _

theorem isNumber_double (x : FiniteDouble) : IsNumber x.text.toList := by
  have hzero : IsMagnitude ['0', '.', '0'] :=
    isMagnitude_of_parts digits_zero (.inr ⟨_, digits_zero, rfl⟩) (.inl rfl)
  have hmagnitude : IsMagnitude (if x.significand = 0 then ['0', '.', '0']
      else decimalText (Nat.toDigits 10 x.shortest.1)
        ((Nat.toDigits 10 x.shortest.1).length + x.shortest.2)) := by
    split
    · exact hzero
    · exact isMagnitude_decimalText (digits_toDigits _) _
  rw [FiniteDouble.text, String.toList_ofList]
  split
  · exact .inr ⟨_, hmagnitude, rfl⟩
  · exact .inl hmagnitude

/-! Constants of the dialects. -/

theorem Literal.fillLiteral_eq {template : String} (front back : String)
    (ht : template = front ++ "{literal}" ++ back) (hf : Template.isBraceless front.toList = true)
    (hb : Template.isBraceless back.toList = true) (s : String) :
    fillLiteral template s = .ok (front ++ Text.quoteString s ++ back) := by
  have hsplit : template.toList =
      front.toList ++ '{' :: ("literal".toList ++ '}' :: back.toList) := by
    simp [ht]
  rw [fillLiteral, Template.fill_slot hsplit hf rfl hb rfl]
  simp [Template.Value.plain]

/-- The dialects whose literals are known. -/
def Dialect.Known (d : Dialect) : Prop := d = .generic ∨ d = Oracle.dialect

namespace Dialect.Known

variable {q : Char} {dialect : Dialect}

theorem reads_bool (hd : dialect.Known) (hq : IsQuote q) (b : Bool) :
    ∃ k : Constant, Reads q (if b then dialect.trueLiteral else dialect.falseLiteral) k.tokens ∧
      (k = .truth b ∨ k = .number [if b then '1' else '0']) := by
  have hdigit : Digits [if b then '1' else '0'] := ⟨by simp, by cases b <;> simp⟩
  rcases hd with rfl | rfl
  · refine ⟨.truth b, ?_, .inl rfl⟩
    cases b
    · exact reads_word hq .FALSE
    · exact reads_word hq .TRUE
  · refine ⟨.number [if b then '1' else '0'], ?_, .inr rfl⟩
    have hone := isMagnitude_of_parts hdigit (.inl rfl) (.inl rfl)
    have := reads_number hq (.inl hone)
    cases b <;> exact this

theorem reads_date (hd : dialect.Known) (hq : IsQuote q) (s : String) :
    ∃ text, ∃ k : Constant, Literal.fillLiteral dialect.dateLiteral s = .ok text ∧
      Reads q text k.tokens ∧ (k = .date s ∨ k = .string s) := by
  have hstring := reads_string hq s
  rcases hd with rfl | rfl
  · refine ⟨_, .date s, Literal.fillLiteral_eq "DATE " "" rfl rfl rfl s, ?_,
      .inl rfl⟩
    have hread := (reads_word hq .DATE).separated (separates_blank hq) hstring
    have hfront : Word.DATE.text ++ " " = "DATE " := rfl
    rw [hfront] at hread
    rw [String.append_empty]
    exact hread
  · refine ⟨_, .string s, Literal.fillLiteral_eq "" "" rfl rfl rfl s, ?_,
      .inr rfl⟩
    rw [String.empty_append, String.append_empty]
    exact hstring

theorem reads_timestamp (hd : dialect.Known) (hq : IsQuote q) (s : String) :
    ∃ text, ∃ k : Constant, Literal.fillLiteral dialect.timestampLiteral s = .ok text ∧
      Reads q text k.tokens ∧ (k = .timestamp s ∨ k = .parsedTimestamp s timestampFormat) := by
  have hstring := reads_string hq s
  rcases hd with rfl | rfl
  · refine ⟨_, .timestamp s, Literal.fillLiteral_eq "TIMESTAMP " "" rfl rfl rfl s,
      ?_, .inl rfl⟩
    have hread := (reads_word hq .TIMESTAMP).separated (separates_blank hq) hstring
    have hfront : Word.TIMESTAMP.text ++ " " = "TIMESTAMP " := rfl
    rw [hfront] at hread
    rw [String.append_empty]
    exact hread
  · refine ⟨_, .parsedTimestamp s timestampFormat, Literal.fillLiteral_eq "TO_TIMESTAMP("
      ", 'yyyy-mm-dd hh24:mi:ss')" rfl rfl rfl s, ?_, .inr rfl⟩
    have hopen := (reads_word hq .TO_TIMESTAMP).separated
      (separates_symbol (.inr (.inl rfl)) hq rfl) hstring
    have hformat := hopen.separated (separates_comma hq) (reads_string hq timestampFormat)
    have hclose := separates_symbol (.inr (.inr rfl)) hq rfl
    have hread := hformat.append hclose.toReads hclose.boundary
    have hfront : Word.TO_TIMESTAMP.text ++ '('.toString = "TO_TIMESTAMP(" := rfl
    have hback : ", " ++ Text.quoteString timestampFormat ++ ')'.toString =
        ", 'yyyy-mm-dd hh24:mi:ss')" := rfl
    rw [← hback]
    simp only [hfront, String.append_assoc] at hread ⊢
    exact hread

end Dialect.Known

/-! Values. -/

variable {q : Char} {dialect : Dialect} {column : String} {type : LogicalType}

theorem Literal.orBreach_eq_ok {α : Type} {value : Option Value} {x : Except Mismatch α} {a : α} :
    orBreach column value x = .ok a ↔ x = .ok a := by
  cases x <;> simp [orBreach]

/-- A day within the calendar has a date, whose text reads as that date. -/
theorem Date.exists_text {n : Int} (hlow : Date.firstDay ≤ n) (hhigh : n ≤ Date.lastDay) :
    ∃ date, Date.ofDay? n = some date ∧ Date.read? date.text.toList = some date ∧
      date.dayNumber = n := by
  have hsome : (Date.ofDay? n).isSome := by
    rw [Date.ofDay?_isSome, ← Date.firstDay_eq, ← Date.lastDay_eq]
    exact ⟨hlow, hhigh⟩
  obtain ⟨date, hdate⟩ := Option.isSome_iff_exists.mp hsome
  obtain ⟨hvalid, hnumber⟩ := Date.ofDay?_spec hdate
  refine ⟨date, hdate, ?_, hnumber⟩
  rw [Date.text, String.toList_ofList, Date.read?_chars hvalid]

/-- An instant within the calendar has a moment, whose text reads as that moment. -/
theorem Moment.exists_text {n : Int} (hlow : Date.firstDay * 86400000 ≤ n)
    (hhigh : n < (Date.lastDay + 1) * 86400000) :
    ∃ moment, Moment.ofMillis? n = some moment ∧
      Moment.read? moment.text.toList = some moment ∧ moment.seconds = n.fdiv 1000 := by
  have hsome : (Moment.ofMillis? n).isSome := by
    rw [Moment.ofMillis?_isSome]
    rw [Date.firstDay_eq] at hlow
    rw [Date.lastDay_eq] at hhigh
    omega
  obtain ⟨moment, hmoment⟩ := Option.isSome_iff_exists.mp hsome
  obtain ⟨hvalid, hsecond, hseconds⟩ := Moment.ofMillis?_spec hmoment
  refine ⟨moment, hmoment, ?_, hseconds⟩
  rw [Moment.text, String.toList_ofList, Moment.read?_chars hvalid hsecond]

/-- What a value means is written as one constant, which stands for the same again, cut to its
whole second. -/
theorem Literal.render_means (hd : dialect.Known) (hq : IsQuote q) {v : Value} {d : Datum}
    (h : v.Means type d) : ∃ text, ∃ k : Constant,
      Literal.render column (some v) dialect type = .ok text ∧ Reads q text k.tokens ∧
      ∀ x : Datum, x.Fits type → k.beside x = some d.wholeSecond := by
  cases h with
  | truth b =>
    obtain ⟨k, hreads, hk⟩ := hd.reads_bool hq b
    refine ⟨_, k, rfl, hreads, ?_⟩
    intro x hx
    cases x <;> cases hx
    rcases hk with rfl | rfl <;> cases b <;> rfl
  | @int n hdigits =>
    have hreads := reads_number hq (isNumber_int n)
    rw [String.ofList_toList] at hreads
    refine ⟨_, .number (toString n).toList, rfl, hreads, ?_⟩
    intro x hx
    cases x <;> cases hx
    exact congrArg (Option.map Datum.int) (integer?_toString n)
  | text s length? =>
    refine ⟨_, .string s, rfl, reads_string hq s, ?_⟩
    intro x hx
    cases x <;> cases hx
    rfl
  | @day n hlow hhigh =>
    obtain ⟨date, hdate, hread, hnumber⟩ := Date.exists_text hlow hhigh
    obtain ⟨text, k, hfill, hreads, hk⟩ := hd.reads_date hq date.text
    refine ⟨text, k, ?_, hreads, ?_⟩
    · simp [render, orBreach, integerOf, hdate, hfill]
    · intro x hx
      cases x <;> cases hx
      rcases hk with rfl | rfl <;> simp [Constant.beside, hread, hnumber, Datum.wholeSecond]
  | @instant n hlow hhigh =>
    obtain ⟨moment, hmoment, hread, hseconds⟩ := Moment.exists_text hlow hhigh
    obtain ⟨text, k, hfill, hreads, hk⟩ := hd.reads_timestamp hq moment.text
    refine ⟨text, k, ?_, hreads, ?_⟩
    · simp [render, orBreach, integerOf, hmoment, hfill]
    · intro x hx
      cases x <;> cases hx
      rcases hk with rfl | rfl <;> simp [Constant.beside, hread, hseconds, Datum.wholeSecond]

/-- Whatever a value is written as is one constant; text is the text that the value holds. -/
theorem Literal.render_reads (hd : dialect.Known) (hq : IsQuote q) {value : Option Value}
    {text : String} (h : Literal.render column value dialect type = .ok text) :
    ∃ k : Constant, Reads q text k.tokens ∧
      (type.kind = .varchar → ∃ s, textOf value = .ok s ∧ k = .string s) := by
  unfold render at h
  cases type with
  | varchar length? =>
    obtain ⟨s, hs, ht⟩ := bind_eq_ok.mp h
    obtain rfl := Except.ok.inj ht
    exact ⟨.string s, reads_string hq s, fun _ => ⟨s, orBreach_eq_ok.mp hs, rfl⟩⟩
  | bigint =>
    obtain ⟨n, -, ht⟩ := bind_eq_ok.mp h
    obtain rfl := Except.ok.inj ht
    have hreads := reads_number hq (isNumber_int n)
    rw [String.ofList_toList] at hreads
    exact ⟨.number _, hreads, nofun⟩
  | double =>
    obtain ⟨x, -, ht⟩ := bind_eq_ok.mp h
    obtain rfl := Except.ok.inj ht
    have hreads := reads_number hq (isNumber_double x)
    rw [String.ofList_toList] at hreads
    exact ⟨.number _, hreads, nofun⟩
  | boolean =>
    obtain ⟨b, -, ht⟩ := bind_eq_ok.mp h
    obtain rfl := Except.ok.inj ht
    obtain ⟨k, hreads, -⟩ := hd.reads_bool hq b
    exact ⟨k, hreads, nofun⟩
  | date =>
    obtain ⟨day, -, ht⟩ := bind_eq_ok.mp h
    split at ht
    · rename_i date _
      obtain ⟨text', k, hfill, hreads, -⟩ := hd.reads_date hq date.text
      obtain rfl := Except.ok.inj (hfill.symm.trans ht)
      exact ⟨k, hreads, nofun⟩
    · cases ht
  | timestamp =>
    obtain ⟨millis, -, ht⟩ := bind_eq_ok.mp h
    split at ht
    · rename_i moment _
      obtain ⟨text', k, hfill, hreads, -⟩ := hd.reads_timestamp hq moment.text
      obtain rfl := Except.ok.inj (hfill.symm.trans ht)
      exact ⟨k, hreads, nofun⟩
    · cases ht
  | varbinary => cases h
  | time => cases h

end Pushdown
