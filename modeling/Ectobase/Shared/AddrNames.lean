import Ectobase.Shared.AddrText

namespace Ectobase.Shared

open List ZonedAddr Addr

-- Addresses as parts of object names, with dashes for their own separators.

def replaceAll (old new : Char) (s : String) : String :=
  String.ofList (s.toList.map fun c => if c = old then new else c)

def ZonedAddr.unmap (a : ZonedAddr) : ZonedAddr :=
  if a.addr.is4In6 then { addr := a.addr.unmap, zone := [] } else a

def ZonedAddr.less (a b : ZonedAddr) : Bool :=
  if a.addr.bitLen ≠ b.addr.bitLen then decide (a.addr.bitLen < b.addr.bitLen)
  else if a.addr.as16 ≠ b.addr.as16 then decide (a.addr.as16 < b.addr.as16)
  else decide (a.zone < b.zone)

def hexGroup (n : Nat) : String := let digits := Nat.toDigits 16 n
  String.ofList (replicate (4 - digits.length) '0' ++ digits)

def ZonedAddr.stringExpanded (a : ZonedAddr) : String :=
  ":".intercalate ((ipv6Groups a.addr.as16).map hexGroup) ++ if a.zone = [] then "" else "%" ++ String.ofList a.zone

def ZonedAddr.dashed (a : ZonedAddr) : String :=
  if a.addr.isV4 then replaceAll '.' '-' a.text else replaceAll ':' '-' a.stringExpanded

def isLowerAlnum (c : Char) : Bool := ('a' <= c && c <= 'z') || ('0' <= c && c <= '9')

def isDNS1123Label (label : List Char) : Bool :=
  label.all (fun c => isLowerAlnum c || c == '-') && label.head?.any isLowerAlnum && label.getLast?.any isLowerAlnum

def isDNS1123Subdomain (s : String) : Bool :=
  decide (s.length <= 253) && (splitAtChar '.' s.toList).all isDNS1123Label

lemma splitAtChar_append_sep (c : Char) (s t : List Char) :
  splitAtChar c (s ++ c :: t) = splitAtChar c s ++ splitAtChar c t := by
  induction s with
  | nil =>
    rw [nil_append]
    simpa [splitAtChar] using splitAtChar_append (not_mem_nil) t
  | cons x s ih =>
    obtain ⟨field, fields, found⟩ := exists_cons_of_ne_nil (splitAtChar_ne_nil c s)
    rw [found] at ih
    by_cases here : x = c
    · simp [splitAtChar, ih, found, here]
    · simp [splitAtChar, ih, found, here]

lemma splitAtChar_injective (c : Char) {s t : List Char} (same : splitAtChar c s = splitAtChar c t) : s = t := by
  rw [<- intercalate_splitAtChar c s, same, intercalate_splitAtChar]

lemma map_intercalate {f : Char -> Char} (c : Char) (fields : List (List Char)) :
  ([c].intercalate fields).map f = [f c].intercalate (fields.map fun field => field.map f) := by
  induction fields with
  | nil => rfl
  | cons first rest ih =>
    cases rest with
    | nil => simp [intercalate]
    | cons second rest =>
      rw [intercalate_cons_cons, map_append, map_cons, ih]
      simp only [map_cons, intercalate_cons_cons]

lemma replaceAll_intercalate {old new : Char} {s : String} {fields : List (List Char)}
  (joined : s.toList = [old].intercalate fields) (absent : ∀ f ∈ fields, old ∉ f) :
  (replaceAll old new s).toList = [new].intercalate fields := by
  rw [replaceAll, String.toList_ofList, joined, map_intercalate, if_pos rfl]
  congr 1
  refine (map_congr_left fun f member => ?_).trans (map_id fields)
  refine (map_congr_left fun c inside => ?_).trans (map_id f)
  have other : c ≠ old := fun same => absent f member (same ▸ inside)
  exact if_neg other

section

lemma octet_length (b : UInt8) : (toString b.toNat).toList.length <= 3 := by
  have small : b.toNat < 10 ^ 3 := lt_of_lt_of_le b.toNat_lt (by decide)
  have text : (toString b.toNat).toList = Nat.toDigits 10 b.toNat := by
    simp [Nat.toString_eq_repr]
  rw [text]
  exact (Nat.length_toDigits_le_iff (by decide : 1 < 10) (by decide : 0 < 3)).mpr small

lemma octet_injective {b b' : UInt8} (same : (toString b.toNat).toList = (toString b'.toNat).toList) : b = b' := by
  have read := (octet_text b).1
  rw [same, (octet_text b').1] at read
  exact (Option.some.inj read).symm

variable (n : Nat) {a : Addr}

lemma hexGroup_toList : (hexGroup n).toList = replicate (4 - (Nat.toDigits 16 n).length) '0' ++ Nat.toDigits 16 n :=
  String.toList_ofList

lemma hexGroup_length {n : Nat} (small : n < 65536) : (hexGroup n).toList.length = 4 := by
  have length := toDigits_length small
  rw [hexGroup_toList, length_append, length_replicate]
  omega

lemma hexFold_hexGroup : hexFold (hexGroup n).toList = n := by
  have zeros (k : Nat) : (replicate k '0').foldl (fun n c => n * 16 + (hexValue c).getD 0) 0 = 0 := by
    induction k with
    | zero => rfl
    | succ k ih => exact ih
  rw [hexGroup_toList, hexFold, foldl_append, zeros]
  exact (toDigits_hex n).2

lemma mem_hexGroup {n : Nat} {c : Char} (member : c ∈ (hexGroup n).toList) : isHex c = true := by
  rw [hexGroup_toList] at member
  rcases mem_append.mp member with zero | digit
  · rw [(mem_replicate.mp zero).2]
    decide
  · exact (toDigits_hex n).1 c digit

def Addr.fields (a : Addr) : List (List Char) :=
  if a.isV4 then a.bytes.map fun b => (toString b.toNat).toList
  else (ipv6Groups a.as16).map fun n => (hexGroup n).toList

lemma not_mem_fields {c : Char} (digit : digitValue c = none) (hex : isHex c = false) : ∀ f ∈ a.fields, c ∉ f := by
  intro f member inside
  unfold fields at member
  split at member
  · obtain ⟨b, -, rfl⟩ := mem_map.mp member
    have := (octet_text b).2.1 c inside
    rw [digit] at this
    cases this
  · obtain ⟨n, -, rfl⟩ := mem_map.mp member
    rw [mem_hexGroup inside] at hex
    cases hex

lemma dashed_toList {a : Addr} : (dashed { addr := a, zone := [] }).toList = ['-'].intercalate a.fields := by
  unfold dashed
  split
  next v4 =>
    refine replaceAll_intercalate ?_ (not_mem_fields (by decide) (by decide))
    simp only [ZonedAddr.text, Addr.text, if_true, show a.isV4 = true from v4, Addr.fields]
    exact ipv4Text_toList a.bytes
  next v6 =>
    refine replaceAll_intercalate ?_ (not_mem_fields (by decide) (by decide))
    simp only [stringExpanded, fields, if_neg v6, if_true, String.append_empty,
      String.toList_intercalate, map_map, Function.comp_def]
    rfl

lemma fields_length (valid : a.Valid) : a.fields.length = if a.isV4 then 4 else 8 := by
  have length := valid.length
  unfold fields
  split
  next v4 => simp [bytes, show a.isV4 = true from v4, length]
  · have groups := (ipv6Groups_spec (show a.as16.length % 2 = 0 by rw [length])).2.1
    rw [length_map]
    omega

lemma fields_ne_nil (valid : a.Valid) : a.fields ≠ [] := by
  intro empty
  have length := fields_length valid
  rw [empty] at length
  split at length <;> cases length

lemma fields_injective {a b : Addr} (validA : a.Valid) (validB : b.Valid)
  (family : a.isV4 = b.isV4) (same : a.fields = b.fields) : a = b := by
  have bytes : a.as16 = b.as16 := by
    unfold fields at same
    rw [<- family] at same
    split at same
    next v4 =>
      have v4' : b.isV4 = true := family ▸ v4
      have low : a.bytes = b.bytes := (map_inj_right fun _ _ => octet_injective).mp same
      simp only [bytes, v4', show a.isV4 = true from v4, if_true] at low
      rw [<- take_append_drop 12 a.as16, <- take_append_drop 12 b.as16, validA.mapped v4, validB.mapped v4', low]
    · have groups : ipv6Groups a.as16 = ipv6Groups b.as16 := by
        refine (map_inj_right fun m n equal => ?_).mp same
        rw [<- hexFold_hexGroup m, <- hexFold_hexGroup n]
        exact congrArg hexFold equal
      have backA := (ipv6Groups_spec (show a.as16.length % 2 = 0 by rw [validA.length])).1
      have backB := (ipv6Groups_spec (show b.as16.length % 2 = 0 by rw [validB.length])).1
      rw [<- backA, groups, backB]
  obtain ⟨as16, isV4⟩ := a
  obtain ⟨as16', isV4'⟩ := b
  simp_all

lemma fields_last (valid : a.Valid) : ∃ f, a.fields.getLast? = some f /\ (f.length = 4 ↔ a.isV4 = false) := by
  obtain ⟨f, last⟩ := Option.isSome_iff_exists.mp (getLast?_isSome.mpr (fields_ne_nil valid))
  refine ⟨f, last, ?_⟩
  have member := mem_of_getLast? last
  unfold fields at member
  split at member
  next v4 =>
    obtain ⟨b, -, rfl⟩ := mem_map.mp member
    have short := octet_length b
    simp only [show a.isV4 = true from v4]
    constructor
    · intro four
      omega
    · intro no
      cases no
  next v6 =>
    obtain ⟨n, listed, rfl⟩ := mem_map.mp member
    have small := (ipv6Groups_spec (show a.as16.length % 2 = 0 by rw [valid.length])).2.2 n listed
    simp [hexGroup_length small, v6]

end

lemma ZonedAddr.unmap_valid {a : ZonedAddr} (valid : a.addr.Valid) : a.unmap.addr.Valid := by
  unfold unmap
  split
  next mapped =>
    simp only [Addr.unmap, mapped, if_true]
    simp only [is4In6, Bool.and_eq_true, beq_iff_eq] at mapped
    exact ⟨valid.length, fun _ => mapped.2⟩
  · exact valid

lemma ZonedAddr.unmap_unmap (a : ZonedAddr) : a.unmap.unmap = a.unmap := by
  by_cases mapped : a.addr.is4In6 = true
  · have once : a.unmap = { addr := { a.addr with isV4 := true }, zone := [] } := by
      simp only [ZonedAddr.unmap, Addr.unmap, mapped, if_true]
    rw [once]
    rfl
  · simp [unmap, mapped]

lemma not_mem_subdomain {s : String} (legal : isDNS1123Subdomain s = true) {c : Char}
  (sep : c ≠ '.') (other : (isLowerAlnum c || c == '-') = false) : c ∉ s.toList := by
  intro member
  rw [<- intercalate_splitAtChar '.' s.toList] at member
  rcases mem_intercalate member with same | ⟨label, listed, inside⟩
  · exact sep same
  · simp only [isDNS1123Subdomain, Bool.and_eq_true, all_eq_true] at legal
    have labelLegal := legal.2 label listed
    simp only [isDNS1123Label, Bool.and_eq_true, all_eq_true] at labelLegal
    rw [labelLegal.1.1 c inside] at other
    cases other

lemma unzoned_of_legal {head : String} {a : ZonedAddr}
  (legal : isDNS1123Subdomain (head ++ "-" ++ a.dashed) = true) : a.zone = [] := by
  by_contra zoned
  refine not_mem_subdomain legal (by decide : '%' ≠ '.') (by decide) ?_
  rw [String.toList_append]
  refine mem_append_right _ ?_
  unfold dashed
  split
  · simp [replaceAll, ZonedAddr.text, zoned]
  · simp [replaceAll, stringExpanded, zoned]

lemma dashed_injective {head head' : String} {a a' : ZonedAddr} (valid : a.addr.Valid)
  (valid' : a'.addr.Valid) (legal : isDNS1123Subdomain (head ++ "-" ++ a.dashed) = true)
  (same : head ++ "-" ++ a.dashed = head' ++ "-" ++ a'.dashed) : head = head' /\ a = a' := by
  obtain ⟨addr, zone⟩ := a
  obtain ⟨addr', zone'⟩ := a'
  obtain rfl : zone = [] := unzoned_of_legal legal
  obtain rfl : zone' = [] := unzoned_of_legal (same ▸ legal)
  have split {h : String} {a : Addr} (valid : a.Valid) :
    splitAtChar '-' (h ++ "-" ++ dashed { addr := a, zone := [] }).toList = splitAtChar '-' h.toList ++ a.fields := by
    rw [String.toList_append, String.toList_append, dashed_toList, append_assoc]
    have absent : ∀ f ∈ a.fields, '-' ∉ f := not_mem_fields (by decide) (by decide)
    change splitAtChar '-' (h.toList ++ '-' :: ['-'].intercalate a.fields) = _
    rw [splitAtChar_append_sep, splitAtChar_intercalate (fields_ne_nil valid) absent]
  have fields : splitAtChar '-' head.toList ++ addr.fields = splitAtChar '-' head'.toList ++ addr'.fields := by
    rw [<- split valid, <- split valid', same]
  have family : addr.isV4 = addr'.isV4 := by
    obtain ⟨f, last, four⟩ := fields_last valid
    obtain ⟨f', last', four'⟩ := fields_last valid'
    have lasts := congrArg getLast? fields
    rw [getLast?_append, getLast?_append, last, last'] at lasts
    obtain rfl : f = f' := by simpa using lasts
    have agree := four.symm.trans four'
    cases h : addr.isV4 <;> cases h' : addr'.isV4 <;> simp_all
  have lengths : addr.fields.length = addr'.fields.length := by
    rw [fields_length valid, fields_length valid', family]
  obtain ⟨heads, tails⟩ := append_inj' fields lengths
  obtain rfl : addr = addr' := fields_injective valid valid' family tails
  exact ⟨String.toList_injective (splitAtChar_injective '-' heads), rfl⟩

end Ectobase.Shared
