import Pushdown.Oracle.Address
import Pushdown.Proofs.Find

/-!
What thin-driver addresses name. An address is turned into one of the client just if it names a
service or a system identifier, and the address of the client tells which it was.
-/
namespace Pushdown.Oracle

open Text

/-- A service at a place, or a system identifier at a host and port. -/
inductive Target
  | service (place name : String)
  | sid (host port name : String)
  deriving DecidableEq

namespace Target

/-- How a thin-driver address names a target. -/
def text : Target → String
  | .service place name => "//" ++ place ++ "/" ++ name
  | .sid host port name => host ++ ":" ++ port ++ ":" ++ name

/-- The client's address of a target. -/
def address : Target → String
  | .service place name => clientScheme ++ place ++ "/?service_name=" ++ name
  | .sid host port name => clientScheme ++ host ++ ":" ++ port ++ "/" ++ name

/-- Targets without empty parts, each part of which ends where the address goes on. -/
inductive Valid : Target → Prop
  | service {place name : String} (hplace : place ≠ "") (hslash : '/' ∉ place.toList)
    (hname : name ≠ "") : Valid (.service place name)
  | sid {host port name : String} (hhost : host ≠ "") (hport : port ≠ "") (hname : name ≠ "")
    (hcolon : ∀ part ∈ [host, port, name], ':' ∉ part.toList)
    (hfront : ¬"//".toList <+: (text (.sid host port name)).toList) : Valid (.sid host port name)

/-- Targets whose system identifier is written without the marks of a service. -/
inductive Plain : Target → Prop
  | service {place name : String} : Plain (.service place name)
  | sid {host port name : String}
    (hmarks : ∀ part ∈ [host, port, name], '/' ∉ part.toList ∧ '?' ∉ part.toList) :
    Plain (.sid host port name)

/-- The target that an address of the client is for. -/
def ofAddress? (address : String) : Option Target := do
  let rest ← afterPrefix? clientScheme.toList address.toList
  let (front, back?) := cutAt (· == '/') rest
  let back ← back?
  match afterPrefix? "?service_name=".toList back with
  | some name => return .service (String.ofList front) (String.ofList name)
  | none =>
    let (host, port?) := cutAt (· == ':') front
    return .sid (String.ofList host) (String.ofList (← port?)) (String.ofList back)

/-- A target is read back from its address. -/
theorem ofAddress?_address {t : Target} (hv : t.Valid) (hp : t.Plain) :
    ofAddress? t.address = some t := by
  cases hv with
  | @service place name hplace hslash hname =>
    have haddress : (address (.service place name)).toList = clientScheme.toList ++
        (place.toList ++ '/' :: ("?service_name=".toList ++ name.toList)) := by
      simp [address]
    have hcut := cutAt_eq_some.mpr
      ⟨(rfl : place.toList ++ '/' :: ("?service_name=".toList ++ name.toList) = _), hslash⟩
    simp only [ofAddress?, haddress, afterPrefix?_append, Option.bind_eq_bind, Option.bind_some,
      hcut]
    simp
  | @sid host port name hhost hport hname hcolon hfront =>
    obtain ⟨hslash, hmark⟩ : '/' ∉ host.toList ++ ':' :: port.toList ∧ '?' ∉ name.toList := by
      cases hp with
      | sid hmarks =>
        have hhost := hmarks host (by simp)
        have hport := hmarks port (by simp)
        exact ⟨by simp [hhost.1, hport.1], (hmarks name (by simp)).2⟩
    have haddress : (address (.sid host port name)).toList = clientScheme.toList ++
        ((host.toList ++ ':' :: port.toList) ++ '/' :: name.toList) := by
      simp [address]
    have hcut := cutAt_eq_some.mpr
      ⟨(rfl : (host.toList ++ ':' :: port.toList) ++ '/' :: name.toList = _), hslash⟩
    have hhost := cutAt_eq_some.mpr
      ⟨(rfl : host.toList ++ ':' :: port.toList = _), hcolon host (by simp)⟩
    have hservice : afterPrefix? "?service_name=".toList name.toList = none :=
      afterPrefix?_eq_none.mpr fun h => hmark (h.subset (by decide))
    simp only [ofAddress?, haddress, afterPrefix?_append, Option.bind_eq_bind, Option.bind_some,
      hcut, hservice, hhost]
    simp

end Target

theorem serviceAddress?_eq_some {target : List Char} {address : String} :
    serviceAddress? target = some address ↔ ∃ place name : String, place ≠ "" ∧
      '/' ∉ place.toList ∧ name ≠ "" ∧ target = place.toList ++ '/' :: name.toList ∧
        address = (Target.service place name).address := by
  constructor
  · intro h
    unfold serviceAddress? at h
    split at h
    · rename_i place name hcut
      obtain ⟨rfl, hslash⟩ := cutAt_eq_some.mp hcut
      split_ifs at h with hempty
      simp only [Bool.or_eq_true, List.isEmpty_iff, not_or] at hempty
      refine ⟨String.ofList place, String.ofList name, ?_, ?_, ?_, ?_, ?_⟩
      · simpa using hempty.1
      · simpa using hslash
      · simpa using hempty.2
      · simp
      · rw [← Option.some.inj h]
        simp [Target.address, String.append_assoc]
    · cases h
  · rintro ⟨place, name, hplace, hslash, hname, rfl, rfl⟩
    have hcut := cutAt_eq_some.mpr ⟨(rfl : place.toList ++ '/' :: name.toList = _), hslash⟩
    simp [serviceAddress?, hcut, hplace, hname, Target.address, String.append_assoc]

theorem sidAddress?_eq_some {target : List Char} {address : String} :
    sidAddress? target = some address ↔ ∃ host port name : String, host ≠ "" ∧ port ≠ "" ∧
      name ≠ "" ∧ (∀ part ∈ [host, port, name], ':' ∉ part.toList) ∧
        target = (Target.sid host port name).text.toList ∧
          address = (Target.sid host port name).address := by
  constructor
  · intro h
    unfold sidAddress? at h
    split at h
    · rename_i host port name hsplit
      obtain ⟨rfl, hhost, hport, hname⟩ := splitOn_eq_three.mp hsplit
      split_ifs at h with hempty
      simp only [Bool.or_eq_true, List.isEmpty_iff, not_or] at hempty
      refine ⟨String.ofList host, String.ofList port, String.ofList name, ?_, ?_, ?_, ?_, ?_, ?_⟩
      · simpa using hempty.1.1
      · simpa using hempty.1.2
      · simpa using hempty.2
      · simp [hhost, hport, hname]
      · simp [Target.text]
      · rw [← Option.some.inj h]
        rfl
    · cases h
  · rintro ⟨host, port, name, hhost, hport, hname, hcolon, rfl, rfl⟩
    have hsplit : (Target.sid host port name).text.toList.splitOn ':' =
        [host.toList, port.toList, name.toList] := by
      rw [splitOn_eq_three]
      exact ⟨by simp [Target.text], hcolon host (by simp), hcolon port (by simp),
        hcolon name (by simp)⟩
    simp [sidAddress?, hsplit, hhost, hport, hname, Target.address]

variable {url rest address : String}

theorem clientAddress_of_not_thin (h : ¬thinScheme.toList <+: url.toList) :
    clientAddress url = .ok url := by
  rw [clientAddress, afterPrefix?_eq_none.mpr h]

theorem clientAddress_of_slashes {target : List Char} (h : rest.toList = '/' :: '/' :: target) :
    clientAddress (thinScheme ++ rest) = match serviceAddress? target with
      | some address => .ok address
      | none => .error (.service (thinScheme ++ rest)) := by
  have hafter : afterPrefix? thinScheme.toList (thinScheme ++ rest).toList =
      some ('/' :: '/' :: target) := by
    rw [String.toList_append, afterPrefix?_append, h]
  rw [clientAddress, hafter]
  rfl

theorem clientAddress_of_not_slashes (h : ¬"//".toList <+: rest.toList) :
    clientAddress (thinScheme ++ rest) = match sidAddress? rest.toList with
      | some address => .ok address
      | none => .error (.sid (thinScheme ++ rest)) := by
  have hafter : afterPrefix? thinScheme.toList (thinScheme ++ rest).toList = some rest.toList := by
    rw [String.toList_append, afterPrefix?_append]
  unfold clientAddress
  rw [hafter]
  split
  · contradiction
  · rename_i target heq
    rw [Option.some.inj heq] at h
    exact absurd (List.prefix_append "//".toList target) h
  · rename_i target _ heq
    obtain rfl : rest.toList = target := Option.some.inj heq
    rfl

/-- A thin-driver address has an address of the client just if it names a target. -/
theorem clientAddress_thin_eq_ok : clientAddress (thinScheme ++ rest) = .ok address ↔
    ∃ t : Target, t.Valid ∧ rest = t.text ∧ address = t.address := by
  by_cases hfront : "//".toList <+: rest.toList
  · obtain ⟨target, hslashes⟩ := hfront
    have htarget : rest.toList = '/' :: '/' :: target := hslashes.symm
    rw [clientAddress_of_slashes htarget]
    constructor
    · intro h
      split at h
      · rename_i found hfound
        obtain rfl := Except.ok.inj h
        obtain ⟨place, name, hplace, hslash, hname, rfl, rfl⟩ := serviceAddress?_eq_some.mp hfound
        refine ⟨_, .service hplace hslash hname, String.toList_inj.mp ?_, rfl⟩
        simp [htarget, Target.text]
      · cases h
    · rintro ⟨t, ht, rfl, rfl⟩
      cases ht with
      | @service place name hplace hslash hname =>
        have htext : place.toList ++ '/' :: name.toList = target := by
          simpa [Target.text] using htarget
        rw [serviceAddress?_eq_some.mpr ⟨place, name, hplace, hslash, hname, htext.symm, rfl⟩]
      | sid _ _ _ _ hfront => exact absurd ⟨target, hslashes⟩ hfront
  · rw [clientAddress_of_not_slashes hfront]
    constructor
    · intro h
      split at h
      · rename_i found hfound
        obtain rfl := Except.ok.inj h
        obtain ⟨host, port, name, hhost, hport, hname, hcolon, htext, rfl⟩ :=
          sidAddress?_eq_some.mp hfound
        obtain rfl := String.toList_inj.mp htext
        exact ⟨_, .sid hhost hport hname hcolon hfront, rfl, rfl⟩
      · cases h
    · rintro ⟨t, ht, rfl, rfl⟩
      cases ht with
      | service => simp [Target.text] at hfront
      | @sid host port name hhost hport hname hcolon =>
        rw [sidAddress?_eq_some.mpr ⟨host, port, name, hhost, hport, hname, hcolon, rfl, rfl⟩]

/-- Any other thin-driver address is refused as what it begins like. -/
theorem clientAddress_thin_refused (h : ∀ t : Target, t.Valid → rest ≠ t.text) :
    clientAddress (thinScheme ++ rest) = .error
      (if "//".toList <+: rest.toList then .service (thinScheme ++ rest)
        else .sid (thinScheme ++ rest)) := by
  have hrefused (found : String) : clientAddress (thinScheme ++ rest) ≠ .ok found := fun hok => by
    obtain ⟨t, ht, htext, -⟩ := clientAddress_thin_eq_ok.mp hok
    exact h t ht htext
  by_cases hfront : "//".toList <+: rest.toList
  · obtain ⟨target, hslashes⟩ := hfront
    have htarget : rest.toList = '/' :: '/' :: target := hslashes.symm
    rw [if_pos ⟨target, hslashes⟩]
    rw [clientAddress_of_slashes htarget] at hrefused ⊢
    split
    · rename_i found hfound
      exact absurd (by rw [hfound]) (hrefused found)
    · rfl
  · rw [if_neg hfront]
    rw [clientAddress_of_not_slashes hfront] at hrefused ⊢
    split
    · rename_i found hfound
      exact absurd (by rw [hfound]) (hrefused found)
    · rfl

theorem Target.not_thin (t : Target) : ¬thinScheme.toList <+: t.address.toList := by
  have hclient : clientScheme.toList <+: t.address.toList := by
    cases t <;> simp [address]
  have happart : ¬thinScheme.toList <+: clientScheme.toList := by decide
  have hlength : thinScheme.toList.length ≤ clientScheme.toList.length := by decide
  exact fun h => happart (List.prefix_of_prefix_length_le h hclient hlength)

/-- What is not a thin-driver address is left as it is, an address that was made of one among it. A
thin-driver address is turned into one of the client just if it names a target, and no two targets
get the same one as long as the parts of a system identifier do not look like a service. -/
theorem tells_targets_apart :
    (∀ url, ¬thinScheme.toList <+: url.toList → clientAddress url = .ok url) ∧
    (∀ rest address, clientAddress (thinScheme ++ rest) = .ok address ↔
      ∃ t : Target, t.Valid ∧ rest = t.text ∧ address = t.address) ∧
    (∀ rest, (∀ t : Target, t.Valid → rest ≠ t.text) → clientAddress (thinScheme ++ rest) =
      .error (if "//".toList <+: rest.toList then .service (thinScheme ++ rest)
        else .sid (thinScheme ++ rest))) ∧
    (∀ url address, clientAddress url = .ok address → clientAddress address = .ok address) ∧
    (∀ s t : Target, s.Valid → s.Plain → t.Valid → t.Plain →
      clientAddress (thinScheme ++ s.text) = clientAddress (thinScheme ++ t.text) → s = t) ∧
    ∃ recover : String → Option Target, ∀ t : Target, t.Valid → t.Plain →
      ∃ address, clientAddress (thinScheme ++ t.text) = .ok address ∧ recover address = some t := by
  have hok {t : Target} (ht : t.Valid) : clientAddress (thinScheme ++ t.text) = .ok t.address :=
    clientAddress_thin_eq_ok.mpr ⟨t, ht, rfl, rfl⟩
  refine ⟨fun url => clientAddress_of_not_thin, fun rest address => clientAddress_thin_eq_ok,
    fun rest => clientAddress_thin_refused, fun url address h => ?_,
    fun s t hs hsp ht htp h => ?_, Target.ofAddress?, fun t ht htp => ?_⟩
  · by_cases hthin : thinScheme.toList <+: url.toList
    · obtain ⟨rest, hrest⟩ := hthin
      have hurl : url = thinScheme ++ String.ofList rest := by
        apply String.toList_inj.mp
        simp [← hrest]
      rw [hurl, clientAddress_thin_eq_ok] at h
      obtain ⟨t, -, -, rfl⟩ := h
      exact clientAddress_of_not_thin t.not_thin
    · obtain rfl := Except.ok.inj ((clientAddress_of_not_thin hthin).symm.trans h)
      exact h
  · rw [hok hs, hok ht] at h
    have hread := congrArg Target.ofAddress? (Except.ok.inj h)
    rw [Target.ofAddress?_address hs hsp, Target.ofAddress?_address ht htp] at hread
    exact Option.some.inj hread
  · exact ⟨t.address, hok ht, Target.ofAddress?_address ht htp⟩

/-- A service may have slashes, colons and question marks in its name. -/
theorem tells_targets_apart_marks :
    let service : Target := .service "db:1521" "pdb/a:b?c"
    let sid : Target := .sid "db" "1521" "pdb"
    clientAddress (thinScheme ++ service.text) =
        .ok "oracle+oracledb://db:1521/?service_name=pdb/a:b?c" ∧
      clientAddress (thinScheme ++ sid.text) = .ok "oracle+oracledb://db:1521/pdb" ∧
      clientAddress (thinScheme ++ service.text) ≠ clientAddress (thinScheme ++ sid.text) ∧
      clientAddress (thinScheme ++ "//db:1521/") =
        .error (.service (thinScheme ++ "//db:1521/")) := by
  intro service sid
  obtain ⟨-, hok, -, -, happart, -⟩ := tells_targets_apart
  have hservice : service.Valid := .service (by decide) (by decide) (by decide)
  have hsid : sid.Valid := .sid (by decide) (by decide) (by decide) (by decide) (by decide)
  have hplain : sid.Plain := .sid (by decide)
  refine ⟨(hok _ _).mpr ⟨service, hservice, rfl, rfl⟩, (hok _ _).mpr ⟨sid, hsid, rfl, rfl⟩,
    fun h => ?_, by decide +kernel⟩
  have hsame := happart service sid hservice .service hsid hplain h
  simp [service, sid] at hsame

end Pushdown.Oracle
