import Pushdown.Proofs.Find
import Pushdown.Proofs.Numeral
import Pushdown.Proofs.Trim

/-!
Names that are listed in a text, with commas between them and blanks around them. The names are read
back from the text in their order, and nothing else that stands in it matters.
-/
namespace Pushdown.Config

open Text

/-- A name as it is kept. -/
structure Kept (name : String) : Prop where
  ne_empty : name ≠ ""
  comma_not_mem : ',' ∉ name.toList
  trimmed : trim name = name

/-- The text holds the names in their order, at least one comma between any two of them, and besides
only commas and blanks. -/
inductive Lists : List Char → List String → Prop
  | nil : Lists [] []
  | gap {c : Char} {cs : List Char} {names : List String} (hc : c = ',' ∨ isBlank c = true)
    (hcs : Lists cs names) : Lists (c :: cs) names
  | last {name : String} {back : List Char} (hname : Kept name)
    (hback : ∀ c ∈ back, isBlank c = true) : Lists (name.toList ++ back) [name]
  | next {name : String} {back cs : List Char} {names : List String} (hname : Kept name)
    (hback : ∀ c ∈ back, isBlank c = true) (hcs : Lists cs names) :
    Lists (name.toList ++ back ++ ',' :: cs) (name :: names)

variable {name : String} {names : List String} {c : Char} {cs front back : List Char}

theorem Lists.kept (h : Lists cs names) : ∀ name ∈ names, Kept name := by
  induction h with
  | nil => simp
  | gap _ _ ih => exact ih
  | last hname => simpa using hname
  | next hname _ _ ih => exact List.forall_mem_cons.mpr ⟨hname, ih⟩

theorem Lists.blanks (hf : ∀ c ∈ front, isBlank c = true) (h : Lists cs names) :
    Lists (front ++ cs) names := by
  induction front with
  | nil => exact h
  | cons c front ih =>
    obtain ⟨hc, hfront⟩ := List.forall_mem_cons.mp hf
    exact .gap (.inr hc) (ih hfront)

/-! Pieces of a text. -/

/-- The names in the characters of a text. -/
def namesIn (cs : List Char) : List String :=
  ((cs.splitOn ',').map trimChars).filterMap fun cs =>
    if cs.isEmpty then none else some (String.ofList cs)

theorem splitNames_eq (s : String) : splitNames s = namesIn s.toList := rfl

/-- The names before a comma, then those after it. -/
theorem namesIn_append_comma (a b : List Char) :
    namesIn (a ++ ',' :: b) = namesIn a ++ namesIn b := by
  rw [namesIn, List.splitOn_append_cons_self, List.map_append, List.filterMap_append]
  rfl

theorem namesIn_intercalate (pieces : List (List Char)) :
    namesIn ([','].intercalate pieces) = pieces.flatMap namesIn := by
  induction pieces with
  | nil => rfl
  | cons piece pieces ih =>
    cases pieces with
    | nil => simp
    | cons next rest =>
      rw [List.intercalate_cons_cons, List.append_assoc, List.singleton_append,
        namesIn_append_comma, ih]
      exact List.flatMap_cons.symm

/-- A piece between commas holds one name or none. -/
theorem namesIn_of_not_mem (h : ',' ∉ cs) :
    namesIn cs = [String.ofList (trimChars cs)].filter (· ≠ "") := by
  rw [namesIn, List.splitOn_eq_singleton h, List.map_singleton]
  cases trimChars cs <;> simp

theorem not_mem_of_blank (h : ∀ c ∈ cs, isBlank c = true) : ',' ∉ cs := fun hc =>
  absurd (h ',' hc) (by decide)

theorem Kept.namesIn_eq (h : Kept name) (hback : ∀ c ∈ back, isBlank c = true) :
    namesIn (name.toList ++ back) = [name] := by
  have hcomma : ',' ∉ name.toList ++ back := by
    rw [List.mem_append, not_or]
    exact ⟨h.comma_not_mem, not_mem_of_blank hback⟩
  have htrimmed : Trimmed isBlank name.toList := by
    rw [← h.trimmed, trim_toList]
    exact trimmed_trimBy isBlank _
  have htrim : trimChars (name.toList ++ back) = name.toList :=
    trimBy_append htrimmed (List.forall_mem_nil _) hback
  rw [namesIn_of_not_mem hcomma, htrim, String.ofList_toList]
  simp [h.ne_empty]

theorem namesIn_blank (hc : isBlank c = true) (cs : List Char) :
    namesIn (c :: cs) = namesIn cs := by
  have hpiece {cs : List Char} (h : ',' ∉ cs) : namesIn (c :: cs) = namesIn cs := by
    have hcomma : ',' ∉ c :: cs := by
      rw [List.mem_cons, not_or]
      exact ⟨fun he => absurd (he ▸ hc) (by decide), h⟩
    rw [namesIn_of_not_mem hcomma, namesIn_of_not_mem h, trimChars, trimBy,
      List.dropWhile_cons_of_pos hc]
    rfl
  by_cases h : ',' ∈ cs
  · obtain ⟨a, b, rfl, ha⟩ := List.eq_append_cons_of_mem h
    rw [← List.cons_append, namesIn_append_comma, namesIn_append_comma, hpiece ha]
  · exact hpiece h

/-! Reading. -/

theorem Lists.namesIn_eq (h : Lists cs names) : namesIn cs = names := by
  induction h with
  | nil => rfl
  | gap hc _ ih =>
    rcases hc with rfl | hc
    · exact (namesIn_append_comma [] _).trans ih
    · rw [namesIn_blank hc, ih]
  | last hname hback => exact hname.namesIn_eq hback
  | next hname hback _ ih =>
    rw [namesIn_append_comma, hname.namesIn_eq hback, ih, List.singleton_append]

/-- A piece between commas is blank, or it holds a name with blanks around it. -/
theorem blank_or_kept (h : ',' ∉ cs) : (∀ c ∈ cs, isBlank c = true) ∨
    ∃ front name back, (∀ c ∈ front, isBlank c = true) ∧ Kept name ∧
      (∀ c ∈ back, isBlank c = true) ∧ cs = front ++ (name.toList ++ back) := by
  obtain ⟨htrimmed, front, back, hfront, hback, hcs⟩ := trimBy_eq_iff.mp (rfl : trimChars cs = _)
  by_cases hcore : trimChars cs = []
  · rw [hcore, List.append_nil] at hcs
    left
    intro c hc
    rw [hcs, List.mem_append] at hc
    exact hc.elim (hfront c) (hback c)
  · right
    refine ⟨front, String.ofList (trimChars cs), back, hfront, ⟨by simpa using hcore, ?_, ?_⟩,
      hback, by simpa using hcs⟩
    · intro hc
      rw [String.toList_ofList] at hc
      exact h (hcs ▸ List.mem_append_left back (List.mem_append_right front hc))
    · rw [trim, String.toList_ofList, trimChars, htrimmed.trimBy_eq]

/-- Whatever stands between its commas, a text lists some names. -/
theorem lists_intercalate {pieces : List (List Char)} (h : ∀ piece ∈ pieces, ',' ∉ piece) :
    ∃ names, Lists ([','].intercalate pieces) names := by
  induction pieces with
  | nil => exact ⟨[], .nil⟩
  | cons piece pieces ih =>
    obtain ⟨hpiece, hpieces⟩ := List.forall_mem_cons.mp h
    cases pieces with
    | nil =>
      rw [List.intercalate_singleton]
      rcases blank_or_kept hpiece with hblank | ⟨front, name, back, hfront, hname, hback, rfl⟩
      · exact ⟨[], by simpa using Lists.nil.blanks hblank⟩
      · exact ⟨[name], (Lists.last hname hback).blanks hfront⟩
    | cons next rest =>
      obtain ⟨names, hnames⟩ := ih hpieces
      rw [List.intercalate_cons_cons, List.append_assoc, List.singleton_append]
      rcases blank_or_kept hpiece with hblank | ⟨front, name, back, hfront, hname, hback, rfl⟩
      · exact ⟨names, (Lists.gap (.inl rfl) hnames).blanks hblank⟩
      · refine ⟨name :: names, ?_⟩
        rw [List.append_assoc]
        exact (Lists.next hname hback hnames).blanks hfront

/-- A text lists the names that are read from it, and no others. -/
theorem lists_iff : Lists cs names ↔ namesIn cs = names := by
  constructor
  · exact Lists.namesIn_eq
  · rintro rfl
    have hpieces : ∀ piece ∈ cs.splitOn ',', ',' ∉ piece := fun _ => not_mem_of_mem_splitOn
    obtain ⟨names, h⟩ := lists_intercalate hpieces
    rw [List.intercalate_splitOn] at h
    rwa [h.namesIn_eq]

/-! Texts. -/

theorem splitNames_of_kept (h : ∀ name ∈ names, Kept name) :
    splitNames (",".intercalate names) = names := by
  have hsingle : ∀ name ∈ names, namesIn name.toList = [name] := fun name hname => by
    simpa using (h name hname).namesIn_eq (List.forall_mem_nil _)
  rw [splitNames_eq, String.toList_intercalate]
  refine (namesIn_intercalate _).trans ?_
  rw [List.flatMap_map, List.flatMap_congr hsingle, List.flatMap_singleton']

/-- The pieces without the blanks around them, those that are left empty dropped. -/
def keptPieces (pieces : List String) : List String := (pieces.map trim).filter (· ≠ "")

theorem splitNames_pieces {pieces : List String} (h : ∀ piece ∈ pieces, ',' ∉ piece.toList) :
    splitNames (",".intercalate pieces) = keptPieces pieces := by
  rw [splitNames_eq, String.toList_intercalate]
  refine (namesIn_intercalate _).trans ?_
  induction pieces with
  | nil => rfl
  | cons piece pieces ih =>
    obtain ⟨hpiece, hpieces⟩ := List.forall_mem_cons.mp h
    rw [List.map_cons, List.flatMap_cons, ih hpieces, namesIn_of_not_mem hpiece]
    exact (List.filter_append ..).symm

theorem exists_pieces (s : String) : ∃ pieces : List String,
    (∀ piece ∈ pieces, ',' ∉ piece.toList) ∧ s = ",".intercalate pieces := by
  refine ⟨(s.toList.splitOn ',').map String.ofList, ?_, ?_⟩
  · intro piece hpiece
    obtain ⟨cs, hcs, rfl⟩ := List.mem_map.mp hpiece
    rw [String.toList_ofList]
    exact not_mem_of_mem_splitOn hcs
  · rw [← String.toList_inj, String.toList_intercalate, List.map_map]
    have hchars : String.toList ∘ String.ofList = id := by
      funext cs
      exact String.toList_ofList
    rw [hchars, List.map_id]
    exact (List.intercalate_splitOn ',').symm

/-- The schemas to hide, given as one text, are the names that the text lists: its pieces between
commas, trimmed, without the blank ones. Put together with commas they are read again, so that any
names of this kind can be given as a text, and what a text is read as is what is configured. -/
theorem excludes_listed :
    (∀ s, ∃ names, asNames (.text s) = .ok names ∧
        (∀ others, Lists s.toList others ↔ others = names) ∧ (∀ name ∈ names, Kept name) ∧
        asNames (.text (",".intercalate names)) = .ok names ∧
        ∃ pieces, (∀ piece ∈ pieces, ',' ∉ piece.toList) ∧ s = ",".intercalate pieces ∧
          names = keptPieces pieces) ∧
      (∀ s t pieces others, s = ",".intercalate pieces → t = ",".intercalate others →
        (∀ piece ∈ pieces ++ others, ',' ∉ piece.toList) →
          keptPieces pieces = keptPieces others → asNames (.text s) = asNames (.text t)) ∧
      (∀ names, (∀ name ∈ names, Kept name) →
        asNames (.text (",".intercalate names)) = .ok names) ∧
      ∀ (fields : Fields) s config, fields.lookup "excluded_schemas" = some (.text s) →
        ofFields fields = .ok config → asNames (.text s) = .ok config.excludedSchemas := by
  have hread : ∀ s, asNames (.text s) = .ok (splitNames s) := fun _ => rfl
  simp only [hread]
  refine ⟨fun s => ?_, ?_, fun names h => ?_, ?_⟩
  · have hlists : ∀ others, Lists s.toList others ↔ others = splitNames s :=
      fun others => lists_iff.trans eq_comm
    have hkept := ((hlists _).mpr rfl).kept
    obtain ⟨pieces, hpieces, hs⟩ := exists_pieces s
    refine ⟨splitNames s, rfl, hlists, hkept, ?_, pieces, hpieces, hs, ?_⟩
    · rw [splitNames_of_kept hkept]
    · rw [hs, splitNames_pieces hpieces]
  · rintro _ _ pieces others rfl rfl hcomma hsame
    obtain ⟨hpieces, hothers⟩ := List.forall_mem_append.mp hcomma
    rw [splitNames_pieces hpieces, splitNames_pieces hothers, hsame]
  · rw [splitNames_of_kept h]
  · intro fields s config hfield hconfig
    obtain ⟨-, hnames⟩ := parts_of_ofFields hconfig
    rw [Fields.getOr, hfield] at hnames
    exact Checked.under_eq_ok.mp hnames

/-- Needless commas, blanks of several kinds, and a name with a blank inside. -/
theorem excludes_listed_blanks :
    let s := " HR ,,\u00a0My Schema\u2003,SYS,"
    let names := ["HR", "My Schema", "SYS"]
    let fields : Fields := [("excluded_schemas", .text s), ("connection_url", .text "u")]
    Lists s.toList names ∧ (∀ name ∈ names, Kept name) ∧
      asNames (.text "HR,My Schema,SYS") = .ok names ∧
      keptPieces [" HR ", "", "\u00a0My Schema\u2003", "SYS", ""] = keptPieces names ∧
      asNames (.text s) = asNames (.text "HR,My Schema,SYS") ∧
      ∃ config, ofFields fields = .ok config ∧ config.excludedSchemas = names := by
  intro s names fields
  obtain ⟨htext, hsame, hnames, hconfig⟩ := excludes_listed
  have hread : asNames (.text s) = .ok names := by decide +kernel
  obtain ⟨found, hfound, hlists, hkept, -⟩ := htext s
  obtain rfl : found = names := Except.ok.inj (hfound.symm.trans hread)
  have hpieces :
      keptPieces [" HR ", "", "\u00a0My Schema\u2003", "SYS", ""] = keptPieces names := by
    decide +kernel
  have hjoined := hsame s "HR,My Schema,SYS" [" HR ", "", "\u00a0My Schema\u2003", "SYS", ""] names
    (by decide +kernel) (by decide +kernel) (by decide +kernel) hpieces
  obtain ⟨config, hof⟩ : ∃ config, ofFields fields = .ok config := ⟨_, rfl⟩
  refine ⟨(hlists _).mpr rfl, hkept, hnames names hkept, hpieces, hjoined, config, hof, ?_⟩
  exact Except.ok.inj ((hconfig fields s config rfl hof).symm.trans hread)

end Pushdown.Config
