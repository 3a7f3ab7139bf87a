import Mathlib.Data.List.TakeDrop
import TextRelay.Endpoint
import TextRelay.Host.Address

/-!
# Addresses and their endpoints

A port is written in digits, so the last colon of an address is the one before the port, whatever
the host holds. What stands before it is the host, or the host in brackets, and tells which of the
two it is, as long as no host begins with a bracket of its own. Then an address tells its endpoint
(`address_determines_endpoint`). Hosts that do begin with a bracket are taken to have theirs
already.
-/

namespace TextRelay

namespace Address

/-- The text is made of two parts, with its last colon between them. -/
structure LastColon (text before after : String) : Prop where
  whole : text = before ++ ":" ++ after
  last : ':' ∉ after.toList

theorem LastColon.splitLast_eq {text before after : String} (h : LastColon text before after) :
    splitLast text = some (before, after) := by
  have hreverse : text.toList.reverse = after.toList.reverse ++ ':' :: before.toList.reverse := by
    rw [h.whole]
    simp
  have hplain : ∀ c ∈ after.toList.reverse, decide (c ≠ ':') = true := by
    intro c hc
    have hne : c ≠ ':' := fun heq => h.last (heq ▸ List.mem_reverse.1 hc)
    simpa using hne
  rw [splitLast, hreverse, List.span_eq_takeWhile_dropWhile, List.takeWhile_append_of_pos hplain,
    List.dropWhile_append_of_pos hplain]
  simp

end Address

namespace Endpoint

variable {e : Endpoint}

/-- A host, in brackets if it holds a colon. -/
def bracketed (host : String) : String :=
  if ':' ∈ host.toList then "[" ++ host ++ "]" else host

theorem hostPart_eq {host : String} (hopen : host.toList.head? ≠ some '[') :
    hostPart host.toList = (bracketed host).toList := by
  by_cases hcolon : ':' ∈ host.toList
  · have hneeds : needsBrackets host.toList = true := by
      simp [needsBrackets, hcolon, hopen]
    rw [hostPart, if_pos hneeds, bracketed, if_pos hcolon]
    simp
  · have hneeds : needsBrackets host.toList = false := by
      simp [needsBrackets, hcolon]
    rw [hostPart, hneeds, bracketed, if_neg hcolon]
    simp

theorem colon_not_mem_port (port : UInt16) : ':' ∉ (toString port.toNat).toList := by
  rw [Nat.toString_eq_ofList_toDigits, String.toList_ofList]
  intro hmem
  exact absurd (Nat.isDigit_of_mem_toDigits (by decide) (by decide) hmem) (by decide)

theorem port_inj {port port' : UInt16} (h : toString port.toNat = toString port'.toNat) :
    port = port' := by
  have hdigits : Nat.toDigits 10 port.toNat = Nat.toDigits 10 port'.toNat := by
    rw [Nat.toString_eq_ofList_toDigits, Nat.toString_eq_ofList_toDigits] at h
    exact String.ofList_injective h
  apply UInt16.toNat_inj.1
  rw [← @Nat.ofDigitChars_ten_toDigits port.toNat, hdigits, Nat.ofDigitChars_ten_toDigits]

theorem lastColon_address (hopen : e.host.toList.head? ≠ some '[') :
    Address.LastColon e.address (bracketed e.host) (toString e.port.toNat) := by
  refine ⟨?_, colon_not_mem_port e.port⟩
  apply String.toList_injective
  rw [address, hostPart_eq hopen]
  simp

/-- Brackets are put around a host once at most. -/
theorem bracketed_inj {host host' : String} (hopen : host.toList.head? ≠ some '[')
    (hopen' : host'.toList.head? ≠ some '[') (h : bracketed host = bracketed host') :
    host = host' := by
  have hhead {text host : String} (htext : text = "[" ++ host ++ "]") :
      text.toList.head? = some '[' := by
    rw [htext]
    simp
  unfold bracketed at h
  split at h <;> split at h
  · have hinner := congrArg String.toList h
    apply String.toList_injective
    simpa using hinner
  · exact absurd (hhead h.symm) hopen'
  · exact absurd (hhead h) hopen
  · exact h

/-- **An address tells its endpoint.** -/
theorem address_determines_endpoint :
    -- What stands before and after the last colon of an address are host and port.
    (∀ e : Endpoint, e.host.toList.head? ≠ some '[' →
      Address.LastColon e.address (bracketed e.host) (toString e.port.toNat) ∧
      Address.splitLast e.address = some (bracketed e.host, toString e.port.toNat)) ∧
    -- So two endpoints have two addresses,
    (∀ e e' : Endpoint, e.host.toList.head? ≠ some '[' → e'.host.toList.head? ≠ some '[' →
      e ≠ e' → e.address ≠ e'.address) ∧
    -- but for hosts that bring their brackets.
    ∀ (host : String) (port : UInt16), ':' ∈ host.toList → host.toList.head? ≠ some '[' →
      address ⟨host, port⟩ = address ⟨"[" ++ host ++ "]", port⟩ := by
  have hsplit {e : Endpoint} (hopen : e.host.toList.head? ≠ some '[') :=
    (lastColon_address hopen).splitLast_eq
  refine ⟨fun e hopen => ⟨lastColon_address hopen, hsplit hopen⟩, ?_, ?_⟩
  · intro e e' hopen hopen' hne haddress
    have hparts := hsplit hopen
    rw [haddress, hsplit hopen', Option.some.injEq, Prod.mk.injEq] at hparts
    obtain ⟨hhost, hport⟩ := hparts
    have hhosts : e.host = e'.host := bracketed_inj hopen hopen' hhost.symm
    have hports : e.port = e'.port := port_inj hport.symm
    cases e
    cases e'
    exact hne (congrArg₂ Endpoint.mk hhosts hports)
  · intro host port hcolon hopen
    rw [address, address, hostPart_eq hopen, bracketed, if_pos hcolon]
    simp [hostPart, needsBrackets]

/-- The loopback host has an address with brackets, given with them or without; and no digit of a
host is taken for one of the port. -/
theorem address_determines_endpoint_loopback :
    Address.splitLast (address ⟨"::1", 9000⟩) = some ("[::1]", "9000") ∧
      address ⟨"::1", 9000⟩ = address ⟨"[::1]", 9000⟩ ∧
      address ⟨"::1:9", 0⟩ ≠ address ⟨"::1", 90⟩ := by
  obtain ⟨hsplit, hapart, hbrackets⟩ := address_determines_endpoint
  refine ⟨(hsplit ⟨"::1", 9000⟩ (by decide)).2, ?_, ?_⟩
  · exact hbrackets "::1" 9000 (by decide) (by decide)
  · exact hapart _ _ (by decide) (by decide) (by decide)

end Endpoint

end TextRelay
