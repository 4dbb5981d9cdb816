import OptimisticCache.Url.Domain
import OptimisticCache.Url.Fault
import OptimisticCache.Url.Ipv6
import OptimisticCache.Url.Percent
/-!
# Hosts of URLs

A host is the name of a domain or an address.  A name whose last label is a
number can only be an IPv4 address; an IPv6 address stands in brackets.

Main results:

- Theorem {lit}`Host.chars_of_ofChars`: a host that was read holds no character that
  is forbidden in names, but brackets and colons.
- Theorem {lit}`Host.ofChars_chars_ipv6`: an IPv6 address is read back.
-/

namespace OptimisticCache

/-- The host of a URL. -/
inductive Host where
  | domain (name : List Char)
  | ipv4 (address : Ipv4)
  | ipv6 (address : Ipv6)

namespace Host

/-- The address between brackets, of which the first is read already. -/
def bracketed (cs : List Char) : Except UrlFault Host :=
  if cs.getLast? = some ']' then
    match Ipv6.ofChars? cs.dropLast with
    | some address => .ok (.ipv6 address)
    | none => .error .invalidIpv6
  else .error .invalidIpv6

/-- The host that a name in its ASCII form stands for. -/
def ofName (name : List Char) : Except UrlFault Host :=
  if name.isEmpty then .error .emptyHost
  else if Ipv4.endsInNumber name then
    match Ipv4.ofChars? name with
    | some address => .ok (.ipv4 address)
    | none => .error .invalidIpv4
  else .ok (.domain name)

/-- Read the host of a web address. -/
def ofChars : List Char → Except UrlFault Host
  | '[' :: cs => bracketed cs
  | cs =>
    match (Percent.decodeText? cs).bind Domain.toAscii? with
    | some name => ofName name
    | none => .error .invalidDomain

/-- Whether a character may not stand in a host that is not looked up. -/
def isReserved (c : Char) : Bool :=
  ['\x00', '\t', '\n', '\r', ' ', '#', '/', ':', '<', '>', '?', '@', '[', '\\', ']', '^',
    '|'].contains c

/-- Read the host of a URL of another kind; it may be empty. -/
def ofOpaque : List Char → Except UrlFault Host
  | '[' :: cs => bracketed cs
  | cs =>
    if cs.any isReserved then .error .invalidCharacter
    else .ok (.domain (Percent.encode Percent.escapedAlways cs))

/-- The text of a host. -/
def chars : Host → List Char
  | domain name => name
  | ipv4 address => address.chars
  | ipv6 address => '[' :: address.chars ++ [']']

/-! ## The characters of a host -/

/-- The hexadecimal digits may stand in a name. -/
theorem isForbidden_of_value? {c : Char} (h : (Hex.value? c).isSome) :
    Domain.isForbidden c = false := by
  have hall : ∀ n < 128, (Hex.value? (Char.ofNat n)).isSome →
      Domain.isForbidden (Char.ofNat n) = false := by
    decide
  have hc : c.toNat < 128 := by
    unfold Hex.value? at h
    dsimp only at h
    repeat' split at h
    all_goals first | omega | cases h
  rw [← Char.ofNat_toNat c] at h ⊢
  exact hall c.toNat hc h

/-- So may the decimal digits. -/
theorem isForbidden_of_isDigit {c : Char} (h : Decimal.isDigit c = true) :
    Domain.isForbidden c = false := by
  unfold Decimal.isDigit Decimal.digit? at h
  split at h
  · rename_i hc
    exact isForbidden_of_value? (by rw [Hex.value?, if_pos hc, Option.isSome_some])
  · cases h

/-- The host of a name holds no character that is forbidden in names. -/
theorem chars_of_ofName {name : List Char} {host : Host} (h : ofName name = .ok host)
    (hname : ∀ c ∈ name, Domain.isForbidden c = false) :
    host.chars ≠ [] ∧ ∀ c ∈ host.chars, Domain.isForbidden c = false := by
  unfold ofName at h
  split at h
  · cases h
  · rename_i hne
    split at h
    · split at h
      · rename_i address _
        obtain rfl := Except.ok.inj h
        refine ⟨address.chars_ne_nil, fun c hc => ?_⟩
        obtain rfl | hdigit := Ipv4.mem_chars hc
        · decide
        · exact isForbidden_of_isDigit hdigit
      · cases h
    · obtain rfl := Except.ok.inj h
      exact ⟨by simpa [chars] using hne, hname⟩

/-- The text of a host that was read is not empty, and it holds no character that is forbidden in
names but brackets and colons. -/
theorem chars_of_ofChars {cs : List Char} {host : Host} (h : ofChars cs = .ok host) :
    host.chars ≠ [] ∧
      ∀ c ∈ host.chars, Domain.isForbidden c = false ∨ c = '[' ∨ c = ':' ∨ c = ']' := by
  unfold ofChars at h
  split at h
  · unfold bracketed at h
    split at h
    · split at h
      · obtain rfl := Except.ok.inj h
        refine ⟨List.cons_ne_nil _ _, fun c hc => ?_⟩
        simp only [chars, List.cons_append, List.mem_cons, List.mem_append, List.not_mem_nil,
          or_false] at hc
        obtain rfl | hc | rfl := hc
        · exact Or.inr (Or.inl rfl)
        · obtain rfl | hdigit := Ipv6.mem_chars hc
          · exact Or.inr (Or.inr (Or.inl rfl))
          · exact Or.inl (isForbidden_of_value? hdigit)
        · exact Or.inr (Or.inr (Or.inr rfl))
      · cases h
    · cases h
  · split at h
    · rename_i name hname
      obtain ⟨text, -, hascii⟩ := Option.bind_eq_some_iff.mp hname
      obtain ⟨hne, hall⟩ := chars_of_ofName h (Domain.toAscii?_allowed hascii)
      exact ⟨hne, fun c hc => Or.inl (hall c hc)⟩
    · cases h

/-- An IPv6 address is read back between its brackets. -/
theorem ofChars_chars_ipv6 (a : Ipv6) : ofChars (ipv6 a).chars = .ok (.ipv6 a) := by
  have h : ofChars (ipv6 a).chars = bracketed (a.chars ++ [']']) := rfl
  rw [h, bracketed, if_pos (by simp), List.dropLast_concat, Ipv6.ofChars?_chars]

end Host
end OptimisticCache
