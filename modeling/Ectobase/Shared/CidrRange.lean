import Ectobase.Shared.AddrText

namespace Ectobase.Shared

open List Option

-- The two readers of a CIDR text, `net.ParseCIDR` and `netip.ParsePrefix`, and the prefix that a
-- network read by the first one is.

variable {c : Char} {s : List Char} {n : Nat} {bytes : List UInt8} {a : Addr}

lemma mem_splitAtChar {x : Char} (apart : x ≠ c) (member : x ∈ s) : ∃ field ∈ splitAtChar c s, x ∈ field := by
  rw [<- intercalate_splitAtChar c s] at member
  exact (mem_intercalate member).resolve_left apart

lemma parseDecimal_digits (read : parseDecimal s = some n) (member : c ∈ s) : (digitValue c).isSome := by
  have failed (s : List Char) : s.foldl (fun (acc : Option Nat) c => do
      let n <- acc
      let d <- digitValue c
      pure (n * 10 + d)) none = none := by
    induction s with
    | nil => rfl
    | cons c rest ih => exact ih
  obtain ⟨before, behind, rfl⟩ := append_of_mem member
  cases value : digitValue c with
  | some => rfl
  | none =>
    have stuck (acc : Option Nat) : (do let n <- acc; let d <- digitValue c; pure (n * 10 + d)) = none := by
      cases acc <;> simp [value]
    rw [parseDecimal, foldl_append, foldl_cons, stuck, failed] at read
    cases read

lemma parseOctet_digits {b : UInt8} (read : parseOctet s = some b) (member : c ∈ s) : (digitValue c).isSome := by
  unfold parseOctet at read
  split at read
  · cases read
  · cases read
  · split at read
    next n decimal => exact parseDecimal_digits decimal member
    · cases read

lemma parseIPv4Fields_chars (read : parseIPv4Fields s = some bytes) (member : c ∈ s) : c = '.' \/ (digitValue c).isSome := by
  by_cases dot : c = '.'
  · exact .inl dot
  · obtain ⟨field, listed, inside⟩ := mem_splitAtChar dot member
    simp only [parseIPv4Fields] at read
    split at read
    · obtain ⟨b, -, octet⟩ := mem_map.mp (map_of_mapM read ▸ mem_map_of_mem listed)
      exact .inr (parseOctet_digits octet.symm inside)
    · cases read

lemma not_hex_slash : hexValue '/' = none := by
  decide

lemma not_digit_slash : digitValue '/' = none := by
  decide

lemma slash_notMem_ipv4 (read : parseIPv4Fields s = some bytes) : '/' ∉ s := by
  intro member
  rcases parseIPv4Fields_chars read member with dot | digit
  · cases dot
  · rw [not_digit_slash] at digit
    cases digit

lemma parseIPv6Groups_slash {fuel : Nat} {rest : List Char} {bytes' : List UInt8} {ellipsis ellipsis' : Option Nat}
  (read : parseIPv6Groups fuel s bytes ellipsis = some (bytes', ellipsis', rest))
  (slash : '/' ∈ s) : '/' ∈ rest := by
  induction fuel generalizing s bytes ellipsis with
  | zero =>
    obtain ⟨-, -, rfl⟩ : bytes = bytes' /\ ellipsis = ellipsis' /\ s = rest := by
      simpa [parseIPv6Groups] using read
    exact slash
  | succ fuel ih =>
    have split : '/' ∈ s.dropWhile fun c => (hexValue c).isSome := by
      rw [<- takeWhile_append_dropWhile (p := fun c => (hexValue c).isSome) (l := s), mem_append] at slash
      refine slash.resolve_left fun digits => ?_
      have hex := mem_takeWhile_imp digits
      rw [not_hex_slash] at hex
      cases hex
    unfold parseIPv6Groups at read
    dsimp only at read
    split at read
    · cases read
    · split at read
      next tail =>
        split at read
        · cases read
        · obtain ⟨v4, fields, -⟩ := map_eq_some_iff.mp read
          exact absurd slash (slash_notMem_ipv4 fields)
      next nothing =>
        rw [nothing] at split
        cases split
      · cases read
      next more rest =>
        rw [rest] at split
        split at read
        · cases read
        · split at read
          next empty => simp [empty] at split
          · exact ih read (by simpa using split)
      next more _ _ rest =>
        rw [rest] at split
        exact ih read (by simpa using split)
      · cases read

lemma slash_notMem_ipv6 (read : parseIPv6 s = some bytes) : '/' ∉ s := by
  intro slash
  unfold parseIPv6 at read
  extract_lets start at read
  have started : '/' ∈ start.2 := by
    dsimp only [start]
    split
    next more => simpa using slash
    · exact slash
  split at read
  next empty =>
    rw [empty] at started
    cases started
  · split at read
    next bytes' ellipsis groups => cases parseIPv6Groups_slash groups started
    · cases read

lemma slash_notMem_addr (read : parseAddr s = some a) : '/' ∉ s := by
  unfold parseAddr at read
  split at read
  · cases read
  · split at read
    · obtain ⟨v4, fields, -⟩ := map_eq_some_iff.mp read
      exact slash_notMem_ipv4 fields
    · obtain ⟨v6, groups, -⟩ := map_eq_some_iff.mp read
      exact slash_notMem_ipv6 groups
    · cases read

lemma one_slash {fields : List (List Char)} {digits : List Char}
  (last : fields.getLast? = some digits) (enough : ¬ fields.length < 2)
  (plain : '/' ∉ ['/'].intercalate fields.dropLast) : ∃ front, fields = [front, digits] := by
  obtain ⟨front, rfl⟩ := getLast?_eq_some_iff.mp last
  rw [dropLast_concat] at plain
  match front with
  | [] => simp at enough
  | [first] => exact ⟨first, rfl⟩
  | first :: second :: rest => exact absurd (by simp [intercalate, intersperse]) plain

lemma colon_mem_addr (read : parseAddr s = some a) : ':' ∈ s ↔ a.isV4 = false := by
  unfold parseAddr at read
  split at read
  · cases read
  · split at read
    · obtain ⟨v4, fields, rfl⟩ := map_eq_some_iff.mp read
      refine ⟨fun member => ?_, fun other => by cases other⟩
      rcases parseIPv4Fields_chars fields member with dot | digit
      · cases dot
      · exact absurd digit (by decide)
    next found =>
      obtain ⟨v6, -, rfl⟩ := map_eq_some_iff.mp read
      exact ⟨fun _ => rfl, fun _ => mem_of_find?_eq_some found⟩
    · cases read

variable {s : String} {p : NetPrefix}

lemma parsePrefix_split (read : parsePrefix s = some (a, n)) :
  ∃ addr digits, splitAtChar '/' s.toList = [addr, digits] /\ parseAddr addr = some a /\
    digits ≠ [] /\ parseDecimal digits = some n /\ n <= (if a.isV4 then 32 else 128) := by
  simp only [parsePrefix, bind_eq_bind, bind_eq_some_iff] at read
  obtain ⟨digits, last, read⟩ := read
  split at read
  · cases read
  next enough =>
    simp only [bind_eq_some_iff] at read
    obtain ⟨addr, addrRead, read⟩ := read
    split at read
    · cases read
    next plain =>
      simp only [bind_eq_some_iff] at read
      obtain ⟨bits, decimal, read⟩ := read
      rw [ite_none_right_eq_some] at read
      obtain ⟨bound, same⟩ := read
      obtain ⟨rfl, rfl⟩ := Prod.mk.inj (some.inj same)
      -- The address has no slash, so the text has exactly the one before its length.
      obtain ⟨front, two⟩ := one_slash last enough (slash_notMem_addr addrRead)
      have front_ : ['/'].intercalate [front, digits].dropLast = front := by simp
      rw [two, front_] at addrRead
      exact ⟨front, digits, two, addrRead, fun empty => plain (.inl empty), decimal, bound⟩

lemma parseCIDR_of_parsePrefix (read : parsePrefix s = some (a, n)) :
  (∃ text, parseAddr text = some a) /\ n <= (if a.isV4 then 32 else 128) /\ parseCIDR s = some
      { ip := maskIP a.as16 (cidrMask n (if a.isV4 then 32 else 128))
        mask := cidrMask n (if a.isV4 then 32 else 128) } := by
  obtain ⟨front, digits, two, addrRead, written, decimal, bound⟩ := parsePrefix_split read
  have joined : ['/'].intercalate [digits] = digits := by simp
  refine ⟨⟨_, addrRead⟩, bound, ?_⟩
  simp only [parseCIDR, two]
  rw [if_neg (cons_ne_nil _ _), addrRead]
  dsimp only
  rw [joined, if_neg written, decimal]
  dsimp only
  rw [if_pos bound]

lemma colon_mem_prefix (read : NetPrefix.parse s = some p) : ':' ∈ s.toList ↔ p.addr.isV4 = false := by
  obtain ⟨⟨a, n⟩, pair, rfl⟩ := map_eq_some_iff.mp read
  obtain ⟨addr, digits, two, addrRead, -, decimal, -⟩ := parsePrefix_split pair
  have plain : ':' ∉ digits := by
    intro member
    exact absurd (parseDecimal_digits decimal member) (by decide)
  rw [<- colon_mem_addr addrRead, <- intercalate_splitAtChar '/' s.toList, two, intercalate_cons_cons]
  simp [plain]

-- The length of a mask in canonical form, 0 for any other.
def maskSize (mask : List UInt8) : Nat :=
  let ones := ((range (8 * mask.length)).takeWhile fun i => bitAt mask i).length
  if mask = cidrMask ones (8 * mask.length) then ones else 0

-- netip.PrefixFrom.
def IPNet.asPrefix (net : IPNet) : Option NetPrefix := if net.ip.length = 4 then
  some { addr := { isV4 := true, as16 := mappedHead ++ net.ip }, bits := maskSize net.mask }
  else if net.ip.length = 16 then
    some { addr := { isV4 := false, as16 := net.ip }, bits := maskSize net.mask }
  else none

lemma length_cidrMask (n bits : Nat) : (cidrMask n bits).length = bits / 8 := by
  simp [cidrMask]

lemma bitAt_cidrMask {bits i : Nat} (whole : 8 * (bits / 8) = bits) (bound : i < bits) :
  bitAt (cidrMask n bits) i = decide (i < n) := by
  have byte : i / 8 < (cidrMask n bits).length := by rw [length_cidrMask]; omega
  have here : (cidrMask n bits).getD (i / 8) 0 = maskByte (bitsInByte n (i / 8)) := by
    rw [getD_eq_getElem _ _ byte]
    simp [cidrMask]
  rw [bitAt, here, maskByte_getMsbD _ _ (bitsInByte_le _ _) (by omega)]
  exact decide_eq_decide.mpr (by unfold bitsInByte; omega)

lemma takeWhile_range {bits : Nat} {p : Nat -> Bool} (bound : n <= bits)
  (below : ∀ i < bits, p i = decide (i < n)) : (range bits).takeWhile p = range n := by
  obtain ⟨more, rfl⟩ := Nat.exists_eq_add_of_le bound
  have first : ∀ i ∈ range n, p i = true := by
    intro i listed
    rw [below i (by have := mem_range.mp listed; omega)]
    simpa using listed
  rw [range_add, takeWhile_append_of_pos first]
  cases more with
  | zero => simp
  | succ more =>
    have stop : p n = false := by simp [below n (by omega)]
    simp [range_succ_eq_map, stop]

lemma maskSize_cidrMask {isV4 : Bool} (bound : n <= if isV4 then 32 else 128) :
  maskSize (cidrMask n (if isV4 then 32 else 128)) = n := by
  generalize width : (if isV4 then 32 else 128) = bits at bound ⊢
  have whole : 8 * (bits / 8) = bits := by
    cases isV4 <;> simp at width <;> omega
  have ones : ((range bits).takeWhile fun i => bitAt (cidrMask n bits) i) = range n :=
    takeWhile_range bound fun i inside => bitAt_cidrMask whole inside
  unfold maskSize
  rw [length_cidrMask, whole, ones, length_range]
  exact if_pos rfl

lemma masked_bytes_self (masked : p.masked = p) (bits : Nat) (length : p.addr.bytes.length = bits / 8) :
  ((p.addr.bytes.zip (cidrMask p.bits bits)).map fun (b, m) => b &&& m) = p.addr.bytes := by
  apply ext_getElem
  · simp [length, length_cidrMask]
  · intro i _ bound
    have byte := p.masked_bytes_getD i
    rw [masked, getD_eq_getElem _ _ bound] at byte
    rw [getElem_map, getElem_zip]
    simpa [cidrMask] using byte.symm

lemma asPrefix_parseCIDR (read : NetPrefix.parse s = some p)
  (masked : p.masked = p) : (parseCIDR s).bind IPNet.asPrefix = some p := by
  obtain ⟨⟨a, n⟩, text, rfl⟩ := map_eq_some_iff.mp read
  obtain ⟨⟨written, addrRead⟩, bound, network⟩ := parseCIDR_of_parsePrefix text
  have valid := parseAddr_valid addrRead
  have sixteen := valid.length
  rw [network, bind_some, IPNet.asPrefix, maskSize_cidrMask bound]
  cases family : a.isV4 with
  | true =>
    have front : a.as16.take 12 = replicate 10 0 ++ [0xff, 0xff] := valid.mapped family
    have head : a.as16 = mappedHead ++ a.as16.drop 12 := by
      rw [mappedHead, <- front, take_append_drop]
    have own : a.bytes = a.as16.drop 12 := by simp [Addr.bytes, family]
    have four : (a.as16.drop 12).length = 4 := by simp [sixteen]
    have self := masked_bytes_self masked 32 (by rw [own, four])
    rw [own] at self
    have ip : maskIP a.as16 (cidrMask n 32) = a.as16.drop 12 := by
      simpa [maskIP, length_cidrMask, sixteen, front] using self
    simp only [if_true, ip, four]
    rw [<- head, <- family]
  | false =>
    have own : a.bytes = a.as16 := by simp [Addr.bytes, family]
    have self := masked_bytes_self masked 128 (by rw [own, sixteen])
    rw [own] at self
    have ip : maskIP a.as16 (cidrMask n 128) = a.as16 := by
      simpa [maskIP, length_cidrMask] using self
    have long : ¬ 16 = 4 := by decide
    simp only [Bool.false_eq_true, if_false, ip, sixteen, long, if_true]
    rw [<- family]

end Ectobase.Shared
