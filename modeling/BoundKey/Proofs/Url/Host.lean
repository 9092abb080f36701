import BoundKey.Proofs.Domain
import BoundKey.Proofs.Text.Utf8
import BoundKey.Url.Host

set_option autoImplicit false

/-!
Hosts with controls at their end. A special URL cannot have one, and in another
URL controls at the end of a host make it another host.
-/

namespace BoundKey.Url

/-! ### Encoded bytes -/

theorem mem_decodeBytes {byte : UInt8} (noSign : byte ≠ 0x25)
    (noDigit : Hex.value? (Char.ofNat byte.toNat) = none)
    {bytes : Bytes} (member : byte ∈ bytes) : byte ∈ decodeBytes bytes := by
  induction bytes using decodeBytes.induct with
  | case1 high low rest decoded isPair ih =>
      rw [decodeBytes, isPair]
      obtain ⟨upper, isUpper, others⟩ := Option.bind_eq_some_iff.1 isPair
      obtain ⟨lower, isLower, -⟩ := Option.bind_eq_some_iff.1 others
      have notHigh : byte ≠ high := by
        rintro rfl
        rw [noDigit] at isUpper
        cases isUpper
      have notLow : byte ≠ low := by
        rintro rfl
        rw [noDigit] at isLower
        cases isLower
      have behindSign := (List.mem_cons.1 member).resolve_left noSign
      have behindHigh := (List.mem_cons.1 behindSign).resolve_left notHigh
      exact List.mem_cons_of_mem decoded
        (ih ((List.mem_cons.1 behindHigh).resolve_left notLow))
  | case2 high low rest noPair ih =>
      rw [decodeBytes, noPair]
      exact List.mem_cons_of_mem
        _ (ih ((List.mem_cons.1 member).resolve_left noSign))
  | case3 first rest other ih =>
      rw [decodeBytes]
      · rcases List.mem_cons.1 member with rfl | behind
        · exact List.mem_cons_self
        · exact List.mem_cons_of_mem first (ih behind)
      · exact other
  | case4 => cases member

theorem encode_ne_nil (part : Part) {text : List Char} (some : text ≠ []) :
    encode part text ≠ [] := by
  obtain ⟨first, rest, rfl⟩ := List.exists_cons_of_ne_nil some
  rw [encode, List.flatMap_cons]
  refine List.append_ne_nil_of_left_ne_nil ?_ _
  split
  · have bytes : String.utf8EncodeChar first ≠ [] := String.utf8EncodeChar_ne_nil
    obtain ⟨byte, others, same⟩ := List.exists_cons_of_ne_nil bytes
    rw [same, List.flatMap_cons, percent, List.cons_append]
    exact List.cons_ne_nil _ _
  · exact List.cons_ne_nil _ _

private theorem noDigit_low {code : Nat} (low : code ≤ 32) :
    Hex.value? (Char.ofNat code) = none := by
  have checked : ∀ code ≤ 32, Hex.value? (Char.ofNat code) = none := by decide
  exact checked code low

/-! ### Hosts -/

private theorem bracketed_low {text : List Char} {char : Char}
    (last : text.getLast? = some char)
    (low : char.toNat ≤ 32) (host : Host) : bracketed text ≠ .ok host := by
  have noBracket : char ≠ ']' := by
    rintro rfl
    revert low
    decide
  intro found
  rw [bracketed, last] at found
  split at found
  case h_1 isBracket => exact noBracket (Option.some.inj isBracket)
  case h_2 => cases found

/-- No host of a special URL ends in a control or a blank. -/
theorem Host.ofSpecial_low {text : List Char} {char : Char}
    (last : text.getLast? = some char)
    (low : char.toNat ≤ 32) (host : Host) : ofSpecial text ≠ .ok host := by
  have member : char ∈ text := List.mem_of_getLast? last
  have asByte : UInt8.ofNat char.toNat ∈ Utf8.encodeChars text := by
    refine List.mem_flatMap.2 ⟨char, member, ?_⟩
    rw [Utf8.utf8EncodeChar_ascii (by omega)]
    exact List.mem_singleton_self _
  have sameCode : (UInt8.ofNat char.toNat).toNat = char.toNat := by
    rw [UInt8.toNat_ofNat']
    omega
  have kept : UInt8.ofNat char.toNat ∈ decodeBytes (Utf8.encodeChars text) := by
    refine mem_decodeBytes (fun same => ?_) ?_ asByte
    · have := congrArg UInt8.toNat same
      rw [sameCode] at this
      change char.toNat = 37 at this
      omega
    · rw [sameCode]
      exact noDigit_low low
  have noDomain :
      ((Utf8.decode? (decodeBytes (Utf8.encodeChars text))).bind fun decoded =>
      Domain.ofText? decoded.toList) = none := by
    cases read : Utf8.decode? (decodeBytes (Utf8.encodeChars text)) with
    | none => rfl
    | some decoded =>
        have decodedMember := Utf8.mem_decode? read (by omega) kept
        rw [sameCode, Char.ofNat_toNat] at decodedMember
        exact Domain.ofText?_low low decodedMember
  intro found
  rw [ofSpecial] at found
  split at found
  · exact bracketed_low last low host found
  · rw [noDomain] at found
    cases found

theorem Host.ofSpecial_append_low {controls : List Char} (some : controls ≠ [])
    (low : ∀ char ∈ controls, char.toNat ≤ 32) (text : List Char) (host : Host) :
    ofSpecial (text ++ controls) ≠ .ok host := by
  refine ofSpecial_low ?_ (low _ (List.getLast_mem some)) host
  rw [List.getLast?_append, List.getLast?_eq_some_getLast some, Option.some_or]

/-- Controls behind the host of another URL make it another host. -/
theorem Host.ofOther_append_low {text controls : List Char} {host : Host}
    (found : ofOther text = .ok host)
    (present : text ≠ []) (some : controls ≠ [])
    (low : ∀ char ∈ controls, char.toNat ≤ 32) :
    ofOther (text ++ controls) ≠ .ok host := by
  have sameHead : (text ++ controls).head? = text.head? := by
    obtain ⟨first, rest, rfl⟩ := List.exists_cons_of_ne_nil present
    rfl
  have last : (text ++ controls).getLast? =
      Option.some (controls.getLast some) := by
    rw [List.getLast?_append, List.getLast?_eq_some_getLast some]
    rfl
  intro again
  rw [ofOther] at found again
  rw [sameHead] at again
  split at found
  case isTrue bracket =>
      rw [if_pos bracket] at again
      exact bracketed_low last (low _ (List.getLast_mem some)) host again
  case isFalse noBracket =>
      rw [if_neg noBracket] at again
      split at found
      · cases found
      split at again
      · cases again
      have longer : encode .opaquePath (text ++ controls) =
          encode .opaquePath text := by
        have := again.trans found.symm
        injection this with this
        injection this
      have nothing : encode .opaquePath controls = [] := by
        rw [encode, List.flatMap_append] at longer
        exact List.append_right_eq_self.1 longer
      exact encode_ne_nil .opaquePath some nothing

end BoundKey.Url
