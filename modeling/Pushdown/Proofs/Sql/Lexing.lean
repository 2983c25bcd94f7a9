import Pushdown.Proofs.Sql.Token

/-!
Texts put together from parts. A part that is read as its tokens wherever a token ends after it
can be joined with others, and what stands between quotes never reaches past its own end.
-/
namespace Pushdown.Sql

/-- The characters that are put around identifiers. -/
def IsQuote (q : Char) : Prop := q = '"' ∨ q = '`'

theorem IsQuote.ne_apostrophe {q : Char} (h : IsQuote q) : q ≠ '\'' := by
  rcases h with rfl | rfl <;> decide

/-- A place at which every token but a symbol ends. -/
def Boundary (rest : List Char) : Prop :=
  ∀ c, rest.head? = some c → c = ' ' ∨ c = ',' ∨ c = '(' ∨ c = ')'

theorem boundary_nil : Boundary [] := by simp [Boundary]

/-- The text is read as the tokens wherever it ends at a boundary. -/
def Reads (q : Char) (text : String) (ts : List Token) : Prop :=
  ∀ rest, Boundary rest →
    lexFrom q .gap (text.toList ++ rest) = (lexFrom q .gap rest).map (ts ++ ·)

/-- The text is read as the tokens whatever comes after it, and it starts at a boundary. -/
structure Separates (q : Char) (text : String) (ts : List Token) : Prop where
  boundary : ∀ rest, Boundary (text.toList ++ rest)
  reads : ∀ rest, lexFrom q .gap (text.toList ++ rest) = (lexFrom q .gap rest).map (ts ++ ·)

variable {q : Char} {text : String} {ts : List Token}

theorem Reads.lex? (h : Reads q text ts) : lex? q text = some ts := by
  have := h [] boundary_nil
  simpa [Sql.lex?, lexFrom, Lexing.finish] using this

/-- Two parts of which the second starts at a boundary. -/
theorem Reads.append {text' : String} {ts' : List Token} (h : Reads q text ts)
    (h' : Reads q text' ts') (hb : ∀ rest, Boundary (text'.toList ++ rest)) :
    Reads q (text ++ text') (ts ++ ts') := by
  intro rest hrest
  rw [String.toList_append, List.append_assoc, h _ (hb rest), h' rest hrest, Option.map_map]
  simp [Function.comp_def]

theorem Reads.separated {sep text' : String} {mark ts' : List Token} (h : Reads q text ts)
    (hs : Separates q sep mark) (h' : Reads q text' ts') :
    Reads q (text ++ sep ++ text') (ts ++ mark ++ ts') := by
  intro rest hrest
  rw [String.toList_append, String.toList_append, List.append_assoc, List.append_assoc,
    h _ (hs.boundary _), hs.reads, h' rest hrest, Option.map_map, Option.map_map]
  simp [Function.comp_def]

theorem Separates.surround {sep sep' : String} {mark mark' : List Token}
    (hs : Separates q sep mark) (h : Reads q text ts) (hs' : Separates q sep' mark') :
    Separates q (sep ++ text ++ sep') (mark ++ ts ++ mark') where
  boundary rest := by
    rw [String.toList_append, String.toList_append, List.append_assoc, List.append_assoc]
    exact hs.boundary _
  reads rest := by
    rw [String.toList_append, String.toList_append, List.append_assoc, List.append_assoc,
      hs.reads, h _ (hs'.boundary _), hs'.reads, Option.map_map, Option.map_map]
    simp [Function.comp_def]

theorem Separates.toReads (h : Separates q text ts) : Reads q text ts := fun rest _ => h.reads rest

theorem Separates.append {text' : String} {ts' : List Token} (h : Separates q text ts)
    (h' : Separates q text' ts') : Separates q (text ++ text') (ts ++ ts') where
  boundary rest := by
    rw [String.toList_append, List.append_assoc]
    exact h.boundary _
  reads rest := by
    rw [String.toList_append, List.append_assoc, h.reads, h'.reads, Option.map_map]
    simp [Function.comp_def]

/-- Parts with one separator between them. -/
theorem Reads.intercalate {α : Type} {sep : String} {mark : List Token}
    (hs : Separates q sep mark) {f : α → String} {g : α → List Token} {xs : List α}
    (hne : xs ≠ []) (h : ∀ x ∈ xs, Reads q (f x) (g x)) :
    Reads q (sep.intercalate (xs.map f)) (mark.intercalate (xs.map g)) := by
  induction xs with
  | nil => exact absurd rfl hne
  | cons x rest ih =>
    have hx := h x (by simp)
    cases rest with
    | nil => simpa [List.intercalate] using hx
    | cons y rest =>
      have hrest := ih (by simp) fun z hz => h z (by simp [hz])
      have := hx.separated hs hrest
      simpa [List.intercalate, List.append_assoc] using this

/-! Where tokens end. -/

theorem lexFrom_gap_cons (c : Char) (rest : List Char) :
    lexFrom q .gap (c :: rest) = (Lexing.start? q c).bind fun s => lexFrom q s rest := by
  simp only [lexFrom, Lexing.grow?, Lexing.finish]
  cases Lexing.start? q c <;> simp

/-- A whole token that does not go on is given, and reading starts afresh. -/
theorem lexFrom_of_finish {state : Lexing} {rest : List Char} (hf : state.finish = some ts)
    (hg : ∀ c, rest.head? = some c → state.grow? c = none) :
    lexFrom q state rest = (lexFrom q .gap rest).map (ts ++ ·) := by
  cases rest with
  | nil =>
    rw [lexFrom, lexFrom, hf]
    simp [Lexing.finish]
  | cons c rest =>
    rw [lexFrom_gap_cons, lexFrom, hg c rfl, hf]
    cases Lexing.start? q c with
    | none => rfl
    | some next => exact Option.map_eq_bind.symm

/-! Quoted parts. -/

theorem lexFrom_quoted (k : Char) (cs seen rest : List Char) :
    lexFrom q (.quoted k seen) (Text.doubleFrom [k] 0 cs ++ k :: rest) =
      lexFrom q (.quoteSeen k (cs.reverse ++ seen)) rest := by
  induction cs generalizing seen with
  | nil => simp [Text.doubleFrom, lexFrom, Lexing.grow?]
  | cons c cs ih =>
    rw [Text.doubleFrom_one_cons]
    split
    · rename_i h
      subst h
      simp [lexFrom, Lexing.grow?, ih]
    · rename_i h
      simp [lexFrom, Lexing.grow?, Ne.symm h, ih]

/-- Content between quotes is read as it is, whatever it holds, and what comes after it is read
afresh unless it starts with one more quote. -/
theorem lexFrom_enclosed {k : Char} (hk : Lexing.start? q k = some (.quoted k []))
    (cs : List Char) {rest : List Char} (hr : rest.head? ≠ some k) :
    lexFrom q .gap (Text.enclosed [k] cs ++ rest) =
      (lexFrom q .gap rest).map ([.ofQuoted k cs] ++ ·) := by
  have hstart : Text.enclosed [k] cs ++ rest = k :: (Text.doubleFrom [k] 0 cs ++ k :: rest) := by
    simp [Text.enclosed]
  rw [hstart, lexFrom_gap_cons, hk, Option.bind_some, lexFrom_quoted]
  apply lexFrom_of_finish
  · simp [Lexing.finish]
  · intro c hc
    have : c ≠ k := fun h => hr (h ▸ hc)
    simp [Lexing.grow?, this]

theorem start?_quote (hq : IsQuote q) : Lexing.start? q q = some (.quoted q []) := by
  rcases hq with rfl | rfl <;> rfl

theorem start?_apostrophe (hq : IsQuote q) : Lexing.start? q '\'' = some (.quoted '\'' []) := by
  rcases hq with rfl | rfl <;> rfl

theorem quoteIdentifier_toList (name : String) :
    (Text.quoteIdentifier q.toString name).toList = Text.enclosed [q] name.toList := by
  simp [Text.quoteIdentifier]

/-- A quoted name stands for the name, in front of anything but one more quote. -/
theorem lexFrom_name (hq : IsQuote q) (name : String) {rest : List Char}
    (hr : rest.head? ≠ some q) :
    lexFrom q .gap ((Text.quoteIdentifier q.toString name).toList ++ rest) =
      (lexFrom q .gap rest).map ([.name name] ++ ·) := by
  rw [quoteIdentifier_toList, lexFrom_enclosed (start?_quote hq) _ hr]
  simp [Token.ofQuoted, hq.ne_apostrophe]

theorem Boundary.head?_ne {rest : List Char} (h : Boundary rest) {k : Char}
    (hk : IsQuote k ∨ k = '\'') : rest.head? ≠ some k := by
  intro hc
  rcases h k hc with rfl | rfl | rfl | rfl <;> rcases hk with (hk | hk) | hk <;> simp at hk

theorem reads_name (hq : IsQuote q) (name : String) :
    Reads q (Text.quoteIdentifier q.toString name) [.name name] :=
  fun _ hrest => lexFrom_name hq name (hrest.head?_ne (.inl hq))

theorem reads_string (hq : IsQuote q) (s : String) :
    Reads q (Text.quoteString s) [.string s] := by
  intro rest hrest
  rw [Text.quoteString_toList, lexFrom_enclosed (start?_apostrophe hq) _ (hrest.head?_ne (.inr rfl))]
  simp [Token.ofQuoted]

/-! Words and symbols. -/

theorem lexFrom_word {cs : List Char} (h : ∀ c ∈ cs, Lexing.isWordChar c = true)
    (seen rest : List Char) :
    lexFrom q (.word seen) (cs ++ rest) = lexFrom q (.word (cs.reverse ++ seen)) rest := by
  induction cs generalizing seen with
  | nil => rfl
  | cons c cs ih =>
    have hc := h c (by simp)
    simp [lexFrom, Lexing.grow?, hc, ih fun d hd => h d (by simp [hd])]

theorem reads_word (hq : IsQuote q) (w : Word) : Reads q w.text [.word w] := by
  intro rest hrest
  obtain ⟨c, cs, hw⟩ : ∃ c cs, w.text.toList = c :: cs := by cases w <;> exact ⟨_, _, rfl⟩
  have hall : ∀ d ∈ w.text.toList, Lexing.isWordChar d = true :=
    List.all_eq_true.mp (by cases w <;> rfl)
  have hfind : Word.ofChars? w.text.toList = some w := by cases w <;> decide
  rw [hw] at hall hfind
  have hstart : Lexing.start? q c = some (.word [c]) := by
    have hc := hall c (by simp)
    have hne : c ≠ ' ' ∧ c ≠ q ∧ c ≠ '\'' := by
      refine ⟨?_, ?_, ?_⟩ <;> rintro rfl
      · exact absurd hc (by decide)
      · rcases hq with rfl | rfl <;> exact absurd hc (by decide)
      · exact absurd hc (by decide)
    simp [Lexing.start?, hc, hne]
  rw [hw, List.cons_append, lexFrom_gap_cons, hstart, Option.bind_some,
    lexFrom_word fun d hd => hall d (by simp [hd])]
  apply lexFrom_of_finish
  · simp [Lexing.finish, hfind]
  · intro d hd
    rcases hrest d hd with rfl | rfl | rfl | rfl <;> rfl

@[simp] theorem lexFrom_blank (hq : IsQuote q) (rest : List Char) :
    lexFrom q .gap (' ' :: rest) = lexFrom q .gap rest := by
  rcases hq with rfl | rfl <;> simp [lexFrom_gap_cons, Lexing.start?]

theorem separates_blank (hq : IsQuote q) : Separates q " " [] where
  boundary rest := by simp [Boundary]
  reads rest := by simp [hq]

/-- A symbol that nothing can be added to. -/
theorem lexFrom_symbol {c : Char} {t : Token} (hc : c = ',' ∨ c = '(' ∨ c = ')' ∨ c = '.')
    (hq : IsQuote q) (ht : Token.ofSymbol? c = some t) (rest : List Char) :
    lexFrom q .gap (c :: rest) = (lexFrom q .gap rest).map ([t] ++ ·) := by
  have hstart : Lexing.start? q c = some (.symbol t) := by
    rcases hq with rfl | rfl <;> rcases hc with rfl | rfl | rfl | rfl <;> cases ht <;> rfl
  have hgrow : ∀ d, (Lexing.symbol t).grow? d = none := by
    rcases hc with rfl | rfl | rfl | rfl <;> cases ht <;> intro d <;> rfl
  rw [lexFrom_gap_cons, hstart, Option.bind_some]
  exact lexFrom_of_finish rfl fun d _ => hgrow d

theorem separates_symbol {c : Char} {t : Token} (hc : c = ',' ∨ c = '(' ∨ c = ')')
    (hq : IsQuote q) (ht : Token.ofSymbol? c = some t) : Separates q c.toString [t] where
  boundary rest := by
    rcases hc with rfl | rfl | rfl <;> simp [Boundary]
  reads rest := by
    simp only [Char.toString_eq_singleton, String.toList_singleton, List.singleton_append]
    refine lexFrom_symbol ?_ hq ht rest
    rcases hc with h | h | h
    · exact .inl h
    · exact .inr (.inl h)
    · exact .inr (.inr (.inl h))

theorem separates_comma (hq : IsQuote q) : Separates q ", " [.comma] :=
  (separates_symbol (.inl rfl) hq rfl).append (separates_blank hq)

theorem separates_comparison (hq : IsQuote q) (op : Comparison) :
    Separates q (" " ++ op.symbol ++ " ") [.compare op] where
  boundary rest := by simp [Boundary]
  reads rest := by
    have hnext : lexFrom q .gap (op.symbol.toList ++ ' ' :: rest) =
        lexFrom q (.symbol (.compare op)) (' ' :: rest) := by
      rcases hq with rfl | rfl <;> cases op <;> simp [Comparison.symbol, lexFrom_gap_cons] <;> rfl
    have hsplit : (" " ++ op.symbol ++ " ").toList ++ rest =
        ' ' :: (op.symbol.toList ++ ' ' :: rest) := by simp
    rw [hsplit, lexFrom_blank hq, hnext,
      lexFrom_of_finish rfl (by cases op <;> simp [Lexing.grow?]), lexFrom_blank hq]

theorem separates_word (hq : IsQuote q) (w : Word) :
    Separates q (" " ++ w.text ++ " ") [.word w] :=
  (separates_blank hq).surround (reads_word hq w) (separates_blank hq)

/-! Numbers. -/

/-- Decimal digits, with a fraction and an exponent if need be. -/
def IsMagnitude (cs : List Char) : Prop :=
  ∃ c rest part, cs = c :: rest ∧ c.isDigit = true ∧
    rest.foldlM NumberPart.next? .whole = some part ∧ part.isEnd = true

def IsNumber (cs : List Char) : Prop := IsMagnitude cs ∨ ∃ m, IsMagnitude m ∧ cs = '-' :: m

/-- A run of digits. -/
def Digits (cs : List Char) : Prop := cs ≠ [] ∧ ∀ c ∈ cs, c.isDigit = true

theorem digits_toDigits (n : Nat) : Digits (Nat.toDigits 10 n) :=
  ⟨by simp, fun _ hc => Nat.isDigit_of_mem_toDigits (by decide) (by decide) hc⟩

theorem Digits.zeros_append {cs : List Char} (h : Digits cs) (n : Nat) :
    Digits (List.replicate n '0' ++ cs) := by
  refine ⟨by simp [h.1], ?_⟩
  intro c hc
  rcases List.mem_append.mp hc with hc | hc
  · rw [List.eq_of_mem_replicate hc]
    rfl
  · exact h.2 c hc

theorem Digits.append_zeros {cs : List Char} (h : Digits cs) (n : Nat) :
    Digits (cs ++ List.replicate n '0') := by
  refine ⟨by simp [h.1], ?_⟩
  intro c hc
  rcases List.mem_append.mp hc with hc | hc
  · exact h.2 c hc
  · rw [List.eq_of_mem_replicate hc]
    rfl

theorem Digits.take {cs : List Char} (h : Digits cs) {n : Nat} (hn : 0 < n) :
    Digits (cs.take n) := by
  refine ⟨?_, fun c hc => h.2 c (List.mem_of_mem_take hc)⟩
  simp only [ne_eq, List.take_eq_nil_iff, not_or]
  exact ⟨by omega, h.1⟩

theorem Digits.drop {cs : List Char} (h : Digits cs) {n : Nat} (hn : n < cs.length) :
    Digits (cs.drop n) :=
  ⟨by simpa using hn, fun c hc => h.2 c (List.mem_of_mem_drop hc)⟩

/-- Digits lead to a part that takes digits, and stay in it. -/
theorem Digits.foldlM_next? {cs : List Char} (h : Digits cs) {part part' : NumberPart}
    (hp : ∀ c : Char, c.isDigit = true → part.next? c = some part')
    (hp' : ∀ c : Char, c.isDigit = true → part'.next? c = some part') :
    cs.foldlM NumberPart.next? part = some part' := by
  obtain ⟨hne, hall⟩ := h
  induction cs generalizing part with
  | nil => exact absurd rfl hne
  | cons c cs ih =>
    rw [List.foldlM_cons, hp c (hall c (by simp)), Option.bind_eq_bind, Option.bind_some]
    cases cs with
    | nil => rfl
    | cons d cs => exact ih hp' (by simp) fun e he => hall e (by simp [he])

/-- Digits, a fraction and an exponent, of which the last two may be missing. -/
theorem isMagnitude_of_parts {whole fraction exponent : List Char} (hw : Digits whole)
    (hf : fraction = [] ∨ ∃ ds, Digits ds ∧ fraction = '.' :: ds)
    (he : exponent = [] ∨
      ∃ sign ds, (sign = '+' ∨ sign = '-') ∧ Digits ds ∧ exponent = 'e' :: sign :: ds) :
    IsMagnitude (whole ++ fraction ++ exponent) := by
  have hwhole : ∃ c rest, whole = c :: rest ∧ c.isDigit = true ∧
      rest.foldlM NumberPart.next? .whole = some .whole := by
    obtain ⟨hne, hall⟩ := hw
    obtain ⟨c, rest, rfl⟩ := List.exists_cons_of_ne_nil hne
    refine ⟨c, rest, rfl, hall c (by simp), ?_⟩
    cases rest with
    | nil => rfl
    | cons d rest =>
      have hrest : Digits (d :: rest) := ⟨by simp, fun e he => hall e (by simp [he])⟩
      exact hrest.foldlM_next? (by simp +contextual [NumberPart.next?])
        (by simp +contextual [NumberPart.next?])
  have hfraction : ∃ mid, fraction.foldlM NumberPart.next? .whole = some mid ∧
      (mid = .whole ∨ mid = .fraction) := by
    rcases hf with rfl | ⟨ds, hds, rfl⟩
    · exact ⟨.whole, rfl, .inl rfl⟩
    · refine ⟨.fraction, ?_, .inr rfl⟩
      have hpoint : NumberPart.next? .whole '.' = some .point := rfl
      rw [List.foldlM_cons, hpoint]
      exact hds.foldlM_next? (by simp +contextual [NumberPart.next?])
        (by simp +contextual [NumberPart.next?])
  obtain ⟨c, rest, rfl, hc, hrest⟩ := hwhole
  obtain ⟨mid, hmid, hcases⟩ := hfraction
  have hexponent : ∃ part, exponent.foldlM NumberPart.next? mid = some part ∧
      part.isEnd = true := by
    rcases he with rfl | ⟨sign, ds, hsign, hds, rfl⟩
    · exact ⟨mid, rfl, by rcases hcases with rfl | rfl <;> rfl⟩
    · refine ⟨.power, ?_, rfl⟩
      have he : mid.next? 'e' = some .exponent := by rcases hcases with rfl | rfl <;> rfl
      have hnext : NumberPart.next? .exponent sign = some .sign := by
        rcases hsign with rfl | rfl <;> rfl
      rw [List.foldlM_cons, he, Option.bind_eq_bind, Option.bind_some, List.foldlM_cons, hnext]
      exact hds.foldlM_next? (by simp +contextual [NumberPart.next?])
        (by simp +contextual [NumberPart.next?])
  obtain ⟨part, hpart, hend⟩ := hexponent
  refine ⟨c, rest ++ fraction ++ exponent, part, by simp, hc, ?_, hend⟩
  simp [List.foldlM_append, hrest, hmid, hpart]

theorem lexFrom_number {part part' : NumberPart} {cs : List Char}
    (h : cs.foldlM NumberPart.next? part = some part') (seen rest : List Char) :
    lexFrom q (.number part seen) (cs ++ rest) =
      lexFrom q (.number part' (cs.reverse ++ seen)) rest := by
  induction cs generalizing part seen with
  | nil => simp_all
  | cons c cs ih =>
    rw [List.foldlM_cons, Option.bind_eq_bind, Option.bind_eq_some_iff] at h
    obtain ⟨mid, hmid, h⟩ := h
    simp [lexFrom, Lexing.grow?, hmid, ih h]

theorem isWordChar_of_isDigit {c : Char} (h : c.isDigit = true) :
    Lexing.isWordChar c = false := by
  have hne : c ≠ '_' := by
    rintro rfl
    exact absurd h (by decide)
  have hrange : 48 ≤ c.toNat ∧ c.toNat ≤ 57 := Char.isDigit_iff_toNat.mp h
  have hbelow {low : Char} (hlow : 57 < low.toNat) : ¬ c.val ≥ low.val := by
    intro hge
    have hle : low.toNat ≤ c.toNat := UInt32.le_iff_toNat_le.mp hge
    omega
  have hupper : c.isUpper = false :=
    decide_eq_false fun hletter => hbelow (by decide : 57 < 'A'.toNat) hletter.1
  have hlower : c.isLower = false :=
    Bool.and_eq_false_imp.mpr fun hge =>
      absurd (of_decide_eq_true hge) (hbelow (by decide : 57 < 'a'.toNat))
  have halpha : c.isAlpha = (c.isUpper || c.isLower) := rfl
  rw [Lexing.isWordChar, halpha, hupper, hlower, beq_false_of_ne hne]
  rfl

theorem start?_digit (hq : IsQuote q) {c : Char} (hc : c.isDigit = true) :
    Lexing.start? q c = some (.number .whole [c]) := by
  have hne : c ≠ ' ' ∧ c ≠ q ∧ c ≠ '\'' := by
    refine ⟨?_, ?_, ?_⟩ <;> rintro rfl
    · exact absurd hc (by decide)
    · rcases hq with rfl | rfl <;> exact absurd hc (by decide)
    · exact absurd hc (by decide)
  simp [Lexing.start?, hc, hne, isWordChar_of_isDigit hc]

theorem reads_number (hq : IsQuote q) {cs : List Char} (h : IsNumber cs) :
    Reads q (String.ofList cs) [.number cs] := by
  intro rest hrest
  have hmagnitude {m : List Char} (hm : IsMagnitude m) (sign : List Char) :
      ∃ c tail, m = c :: tail ∧ c.isDigit = true ∧
        lexFrom q (.number .whole (c :: sign.reverse)) (tail ++ rest) =
          (lexFrom q .gap rest).map ([.number (sign ++ m)] ++ ·) := by
    obtain ⟨c, tail, part, rfl, hc, hrun, hend⟩ := hm
    refine ⟨c, tail, rfl, hc, ?_⟩
    rw [lexFrom_number hrun]
    apply lexFrom_of_finish
    · simp [Lexing.finish, hend]
    · intro d hd
      rcases hrest d hd with rfl | rfl | rfl | rfl <;> cases part <;> rfl
  rw [String.toList_ofList]
  rcases h with hm | ⟨m, hm, rfl⟩
  · obtain ⟨c, tail, rfl, hc, hread⟩ := hmagnitude hm []
    rw [List.cons_append, lexFrom_gap_cons, start?_digit hq hc, Option.bind_some]
    exact hread
  · obtain ⟨c, tail, rfl, hc, hread⟩ := hmagnitude hm ['-']
    have hstart : Lexing.start? q '-' = some .minus := by rcases hq with rfl | rfl <;> rfl
    have hgrow : Lexing.minus.grow? c = some (.number .whole [c, '-']) := by
      simp [Lexing.grow?, hc]
    rw [List.cons_append, lexFrom_gap_cons, hstart, Option.bind_some, List.cons_append, lexFrom,
      hgrow]
    exact hread

end Pushdown.Sql
