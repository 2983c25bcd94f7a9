import Mathlib.Data.List.Basic
import Pushdown.Dialect

/-!
Quoted text read back. Between quotes every quote is doubled. Where the quote is one character, a
reader finds the end of the content, whatever comes after it; where it is longer and may overlap
itself, the content can still be told from what was written.
-/
namespace Pushdown

namespace Text

variable {quote cs rest : List Char} {c q : Char} {n : Nat}

/-! Occurrences. -/

theorem doubleFrom_eq_drop (quote : List Char) (skip : Nat) (cs : List Char) :
    doubleFrom quote skip cs = doubleFrom quote 0 (cs.drop skip) := by
  induction cs generalizing skip with
  | nil => simp [doubleFrom]
  | cons c rest ih =>
    cases skip with
    | zero => rfl
    | succ skip => rw [doubleFrom, ih, List.drop_succ_cons]

theorem doubleFrom_occurrence (hq : quote ≠ []) (rest : List Char) :
    doubleFrom quote 0 (quote ++ rest) = quote ++ quote ++ doubleFrom quote 0 rest := by
  obtain ⟨c, others, rfl⟩ := List.exists_cons_of_ne_nil hq
  have hprefix : (c :: others).isPrefixOf (c :: (others ++ rest)) = true := by simp
  rw [List.cons_append, doubleFrom, if_pos hprefix, doubleFrom_eq_drop, List.length_cons,
    Nat.add_sub_cancel, List.drop_left]

theorem doubleFrom_other (h : ¬quote <+: c :: rest) :
    doubleFrom quote 0 (c :: rest) = c :: doubleFrom quote 0 rest := by
  rw [doubleFrom, if_neg (by simpa using h)]

/-- Text from the left: either an occurrence of the quote comes next or a character that begins
none. -/
theorem occurrence_induction {motive : List Char → Prop} (hq : quote ≠ []) (nil : motive [])
    (occurrence : ∀ rest, motive rest → motive (quote ++ rest))
    (other : ∀ c rest, ¬quote <+: c :: rest → motive rest → motive (c :: rest))
    (cs : List Char) : motive cs := by
  induction hn : cs.length using Nat.strongRecOn generalizing cs with
  | _ n ih =>
    subst hn
    by_cases hprefix : quote <+: cs
    · obtain ⟨rest, rfl⟩ := hprefix
      have hlength := List.length_pos_of_ne_nil hq
      exact occurrence rest (ih rest.length (by simpa using hlength) rest rfl)
    · cases cs with
      | nil => exact nil
      | cons c rest => exact other c rest hprefix (ih rest.length (by simp) rest rfl)

/-! Quotes of any length. -/

/-- Takes one of every two quotes that stand together, found from the left. The first `skip`
characters belong to quotes that have been taken already. -/
def undoubleFrom (quote : List Char) : Nat → List Char → List Char
  | _, [] => []
  | skip + 1, _ :: rest => undoubleFrom quote skip rest
  | 0, c :: rest =>
    if quote.isPrefixOf (c :: rest) then
      quote ++ undoubleFrom quote (2 * quote.length - 1) rest
    else c :: undoubleFrom quote 0 rest

theorem undoubleFrom_eq_drop (quote : List Char) (skip : Nat) (cs : List Char) :
    undoubleFrom quote skip cs = undoubleFrom quote 0 (cs.drop skip) := by
  induction cs generalizing skip with
  | nil => simp [undoubleFrom]
  | cons c rest ih =>
    cases skip with
    | zero => rfl
    | succ skip => rw [undoubleFrom, ih, List.drop_succ_cons]

theorem undoubleFrom_doubled (hq : quote ≠ []) (rest : List Char) :
    undoubleFrom quote 0 (quote ++ quote ++ rest) = quote ++ undoubleFrom quote 0 rest := by
  obtain ⟨c, others, rfl⟩ := List.exists_cons_of_ne_nil hq
  have hprefix : (c :: others).isPrefixOf (c :: (others ++ c :: others ++ rest)) = true := by simp
  have hskip : 2 * (c :: others).length - 1 = (others ++ c :: others).length := by
    simp only [List.length_cons, List.length_append]
    omega
  rw [List.cons_append, List.cons_append, undoubleFrom, if_pos hprefix, undoubleFrom_eq_drop,
    hskip, List.drop_left]

theorem undoubleFrom_other (h : ¬quote <+: c :: rest) :
    undoubleFrom quote 0 (c :: rest) = c :: undoubleFrom quote 0 rest := by
  rw [undoubleFrom, if_neg (by simpa using h)]

/-- Doubling does not change the text up to the length of one quote. -/
theorem take_doubleFrom (hq : quote ≠ []) (hn : n ≤ quote.length) (cs : List Char) :
    (doubleFrom quote 0 cs).take n = cs.take n := by
  induction cs using occurrence_induction hq generalizing n with
  | nil => rfl
  | occurrence rest =>
    rw [doubleFrom_occurrence hq, List.append_assoc, List.take_append_of_le_length hn,
      List.take_append_of_le_length hn]
  | other c rest h ih =>
    cases n with
    | zero => rfl
    | succ n => rw [doubleFrom_other h, List.take_succ_cons, List.take_succ_cons, ih (by omega)]

/-- Doubled text begins with a quote just if its content does: what stands before an occurrence and
the first copy of that are as in the content, so that no quote is found across them. -/
theorem prefix_doubleFrom_iff (hq : quote ≠ []) :
    quote <+: doubleFrom quote 0 cs ↔ quote <+: cs := by
  rw [List.prefix_iff_eq_take, List.prefix_iff_eq_take, take_doubleFrom hq (Nat.le_refl _)]

theorem undoubleFrom_doubleFrom (hq : quote ≠ []) (cs : List Char) :
    undoubleFrom quote 0 (doubleFrom quote 0 cs) = cs := by
  induction cs using occurrence_induction hq with
  | nil => rfl
  | occurrence rest ih => rw [doubleFrom_occurrence hq, undoubleFrom_doubled hq, ih]
  | other c rest h ih =>
    -- The rest was doubled, but no quote begins here that did not begin in the content.
    have hdoubled := mt (prefix_doubleFrom_iff hq).mp h
    rw [doubleFrom_other h] at hdoubled ⊢
    rw [undoubleFrom_other hdoubled, ih]

theorem enclosed_injective (hq : quote ≠ []) : Function.Injective (enclosed quote) := by
  intro a b h
  have hdoubled : doubleFrom quote 0 a = doubleFrom quote 0 b :=
    List.append_cancel_left (List.append_cancel_right h)
  rw [← undoubleFrom_doubleFrom hq a, hdoubled, undoubleFrom_doubleFrom hq]

/-! Quotes of one character. -/

/-- Reads on after an opening quote. A doubled quote stands for one, and the first that is not
doubled is the closing one. Gives the content and what comes after the closing quote. -/
def readQuoted? (q : Char) : List Char → Option (List Char × List Char)
  | [] => none
  | [c] => if c = q then some ([], []) else none
  | c :: d :: rest =>
    if c = q then
      if d = q then (readQuoted? q rest).map fun (content, after) => (q :: content, after)
      else some ([], d :: rest)
    else (readQuoted? q (d :: rest)).map fun (content, after) => (c :: content, after)

theorem readQuoted?_close (h : rest.head? ≠ some q) :
    readQuoted? q (q :: rest) = some ([], rest) := by
  cases rest with
  | nil => simp [readQuoted?]
  | cons d rest =>
    have hd : d ≠ q := fun he => h (he ▸ rfl)
    simp [readQuoted?, hd]

theorem readQuoted?_doubled (q : Char) (cs : List Char) : readQuoted? q (q :: q :: cs) =
    (readQuoted? q cs).map fun (content, after) => (q :: content, after) := by
  rw [readQuoted?, if_pos rfl, if_pos rfl]

theorem readQuoted?_other (h : c ≠ q) (cs : List Char) : readQuoted? q (c :: cs) =
    (readQuoted? q cs).map fun (content, after) => (c :: content, after) := by
  cases cs <;> simp [readQuoted?, h]

/-- The content is read back exactly, unless one more quote follows the closing one. -/
theorem readQuoted?_doubleFrom (h : rest.head? ≠ some q) (cs : List Char) :
    readQuoted? q (doubleFrom [q] 0 cs ++ q :: rest) = some (cs, rest) := by
  induction cs with
  | nil => exact readQuoted?_close h
  | cons c cs ih =>
    rw [doubleFrom_one_cons]
    split
    · rename_i hc
      subst hc
      rw [List.cons_append, List.cons_append, readQuoted?_doubled, ih, Option.map_some]
    · rename_i hc
      rw [List.cons_append, readQuoted?_other (Ne.symm hc), ih, Option.map_some]

theorem exists_readQuoted?_enclosed (q : Char) (content : List Char) :
    ∃ text, enclosed [q] content = q :: text ∧
      ∀ rest, rest.head? ≠ some q → readQuoted? q (text ++ rest) = some (content, rest) := by
  refine ⟨doubleFrom [q] 0 content ++ [q], rfl, fun rest h => ?_⟩
  rw [List.append_assoc, List.singleton_append, readQuoted?_doubleFrom h]

end Text

namespace SqlStyle

open Text

/-- No two names are quoted alike, however long the quote is. If it is one character, a quoted name
is read back as the name in front of any text but one more quote, and what comes after it is left.
Both hold of strings, whose quote is the apostrophe. -/
theorem quotes_decodably (dialect : Dialect) :
    (∀ quote, quote ≠ "" → Function.Injective (SqlStyle.mk dialect quote).quote) ∧
      (∀ (q : Char) (name : String), ∃ text,
        ((SqlStyle.mk dialect q.toString).quote name).toList = q :: text ∧
          ∀ rest, rest.head? ≠ some q → readQuoted? q (text ++ rest) = some (name.toList, rest)) ∧
      Function.Injective quoteString ∧
      ∀ content : String, ∃ text, (quoteString content).toList = '\'' :: text ∧
        ∀ rest, rest.head? ≠ some '\'' →
          readQuoted? '\'' (text ++ rest) = some (content.toList, rest) := by
  refine ⟨fun quote hquote a b h => ?_, fun q name => ?_, fun a b h => ?_, fun content => ?_⟩
  · have hne : quote.toList ≠ [] := by simpa using hquote
    simp only [SqlStyle.quote, quoteIdentifier, if_neg hquote, String.ofList_inj] at h
    exact String.toList_inj.mp (enclosed_injective hne h)
  · have htext :
        ((SqlStyle.mk dialect q.toString).quote name).toList = enclosed [q] name.toList := by
      simp [SqlStyle.quote, quoteIdentifier]
    rw [htext]
    exact exists_readQuoted?_enclosed q name.toList
  · rw [quoteString, quoteString, String.ofList_inj] at h
    exact String.toList_inj.mp (enclosed_injective (List.cons_ne_nil _ _) h)
  · rw [quoteString_toList]
    exact exists_readQuoted?_enclosed '\'' content.toList

/-- A quote that overlaps itself, a name that ends with its quote, and a string with an apostrophe
inside. -/
theorem quotes_decodably_overlapping :
    let long : SqlStyle := ⟨.generic, "aba"⟩
    let short : SqlStyle := ⟨.generic, '"'.toString⟩
    long.quote "ababa" = "abaabaababaaba" ∧ long.quote "ababa" ≠ long.quote "abaaba" ∧
      short.quote "a\"" = "\"a\"\"\"" ∧
      readQuoted? '"' "a\"\"\".b".toList = some ("a\"".toList, ".b".toList) ∧
      quoteString "it's" = "'it''s'" ∧ quoteString "it's" ≠ quoteString "it''s" ∧
      readQuoted? '\'' "it''s' AND".toList = some ("it's".toList, " AND".toList) := by
  intro long short
  obtain ⟨hnames, hread, hstrings, hreadString⟩ := quotes_decodably .generic
  have hname : short.quote "a\"" = "\"a\"\"\"" := by decide +kernel
  have hstring : quoteString "it's" = "'it''s'" := by decide +kernel
  refine ⟨by decide +kernel, (hnames "aba" (by decide)).ne (by decide), hname, ?_, hstring,
    hstrings.ne (by decide), ?_⟩
  · obtain ⟨text, htext, hrest⟩ := hread '"' "a\""
    rw [hname] at htext
    obtain rfl : "a\"\"\"".toList = text := (List.cons.inj htext).2
    exact hrest ".b".toList (by decide)
  · obtain ⟨text, htext, hrest⟩ := hreadString "it's"
    rw [hstring] at htext
    obtain rfl : "it''s'".toList = text := (List.cons.inj htext).2
    exact hrest " AND".toList (by decide)

end SqlStyle
end Pushdown
