import BoundKey.Proofs.Manager.AccessToken
import BoundKey.Proofs.Manager.Failures
import BoundKey.Proofs.Manager.SignedTarget

set_option autoImplicit false

/-!
How a request's URL is cut. Behind the first mark stand the authority, the path,
and a query or a fragment; they and what stands before the mark make up the text
again, and there is one way to part it like this. The cuts are made at
characters below 128, so they are the same among the bytes of the text. Nothing
of the target comes from the query or the fragment.
-/

namespace BoundKey

namespace RequestTarget

/-! ### The parts of a text -/

/-- Nothing, or what begins with a question mark or a number sign. -/
def IsSuffix (suffix : List Char) : Prop :=
  ∀ char, suffix.head? = some char → char = '?' ∨ char = '#'

/-- A text cut at its first mark, then in front of the path and in front of the
query or the fragment. -/
structure IsCut (text before authority path suffix : List Char) : Prop where
  whole : text = before ++ mark ++ (authority ++ path ++ suffix)
  first : ∀ earlier later, text = earlier ++ mark ++ later →
    before.length ≤ earlier.length
  plainAuthority : ∀ char ∈ authority, char ≠ '/' ∧ char ≠ '?' ∧ char ≠ '#'
  strokeFirst : ∀ char, path.head? = some char → char = '/'
  plainPath : ∀ char ∈ path, char ≠ '?' ∧ char ≠ '#'
  isSuffix : IsSuffix suffix

variable {text before authority path suffix : List Char}

theorem not_endsAuthority_iff {char : Char} :
    decide (¬ endsAuthority char = true) = true ↔
      char ≠ '/' ∧ char ≠ '?' ∧ char ≠ '#' := by
  simp [endsAuthority, and_assoc]

theorem not_endsPath_iff {char : Char} :
    decide (¬ endsPath char = true) = true ↔ char ≠ '?' ∧ char ≠ '#' := by
  simp [endsPath]

theorem isCut_iff : IsCut text before authority path suffix ↔
    ∃ rest, Text.splitOnce mark text = some (before, rest) ∧
      authority = rest.takeWhile (¬ endsAuthority ·) ∧
      path = (rest.dropWhile (¬ endsAuthority ·)).takeWhile (¬ endsPath ·) ∧
      suffix = (rest.dropWhile (¬ endsAuthority ·)).dropWhile (¬ endsPath ·) := by
  constructor
  · intro cut
    have stopsPath : ∀ char, suffix.head? = some char →
        decide (¬ endsPath char = true) = false := by
      intro char found
      rcases cut.isSuffix char found with rfl | rfl
      · rfl
      · rfl
    have stopsAuthority : ∀ char, (path ++ suffix).head? = some char →
        decide (¬ endsAuthority char = true) = false := by
      intro char found
      rw [List.head?_append, Option.or_eq_some_iff] at found
      rcases found with inPath | ⟨-, behind⟩
      · rw [cut.strokeFirst char inPath]
        rfl
      · rcases cut.isSuffix char behind with rfl | rfl
        · rfl
        · rfl
    have outer := Text.cut_of_head? (fun char member =>
      not_endsAuthority_iff.2 (cut.plainAuthority char member))
      stopsAuthority
    have inner :=
      Text.cut_of_head?
        (fun char member => not_endsPath_iff.2 (cut.plainPath char member))
        stopsPath
    refine ⟨_, Text.splitOnce_eq_some_iff.2 ⟨cut.whole, cut.first⟩, ?_⟩
    rw [List.append_assoc, outer.1, outer.2, inner.1, inner.2]
    exact ⟨rfl, rfl, rfl⟩
  · rintro ⟨rest, found, rfl, rfl, rfl⟩
    obtain ⟨whole, first⟩ := Text.splitOnce_eq_some_iff.1 found
    have joined : rest.takeWhile (¬ endsAuthority ·)
        ++ (rest.dropWhile (¬ endsAuthority ·)).takeWhile (¬ endsPath ·) ++
        (rest.dropWhile (¬ endsAuthority ·)).dropWhile (¬ endsPath ·) = rest := by
      rw [List.append_assoc, List.takeWhile_append_dropWhile,
        List.takeWhile_append_dropWhile]
    have stops := List.head?_dropWhile_not
      (fun char => decide (¬ endsAuthority char = true)) rest
    have kept :=
      List.head?_dropWhile_not (fun char => decide (¬ endsPath char = true))
      (rest.dropWhile (¬ endsAuthority ·))
    refine ⟨joined.symm ▸ whole, first, ?_, ?_, ?_, ?_⟩
    · exact fun char member =>
        not_endsAuthority_iff.1
          (List.all_eq_true.1 List.all_takeWhile char member)
    · intro char found
      rw [List.head?_takeWhile, Option.filter_eq_some_iff] at found
      rw [found.1] at stops
      have inPath := not_endsPath_iff.1 found.2
      simpa [endsAuthority, inPath] using stops
    · exact fun char member =>
        not_endsPath_iff.1 (List.all_eq_true.1 List.all_takeWhile char member)
    · intro char found
      rw [found] at kept
      simpa [endsPath, or_iff_not_imp_left] using kept

theorem IsCut.unique {before' authority' path' suffix' : List Char}
    (cut : IsCut text before authority path suffix)
    (again : IsCut text before' authority' path' suffix') :
    before' = before ∧ authority' = authority ∧ path' = path ∧
      suffix' = suffix := by
  obtain ⟨rest, found, rfl, rfl, rfl⟩ := isCut_iff.1 cut
  obtain ⟨rest', found', rfl, rfl, rfl⟩ := isCut_iff.1 again
  cases found.symm.trans found'
  exact ⟨rfl, rfl, rfl, rfl⟩

/-- What stands behind the path can be replaced: an earlier mark would end in
front of the authority. -/
theorem IsCut.replace {suffix' : List Char}
    (cut : IsCut text before authority path suffix)
    (isSuffix : IsSuffix suffix') :
    IsCut (before ++ mark ++ (authority ++ path ++ suffix')) before authority
      path suffix' := by
  refine ⟨rfl, ?_, cut.plainAuthority, cut.strokeFirst, cut.plainPath, isSuffix⟩
  intro earlier later same
  by_contra shorter
  have within : (earlier ++ mark).length ≤ (before ++ mark).length := by
    rw [List.length_append, List.length_append]
    omega
  have front : earlier ++ mark <+: before ++ mark :=
    List.prefix_of_prefix_length_le ⟨later, same.symm⟩
      (List.prefix_append _ _) within
  obtain ⟨between, joined⟩ := front
  have here :
      text = earlier ++ mark ++ (between ++ (authority ++ path ++ suffix)) := by
    rw [cut.whole, ← joined, List.append_assoc]
  exact shorter (cut.first _ _ here)

/-! ### Other queries and fragments -/

theorem IsCut.trim_replaced {url : String} {suffix' lead trail : List Char}
    (cut : IsCut (Text.trim url).toList before authority path suffix)
    (blankLead : ∀ char ∈ lead, Text.isBlank char = true)
    (blankTrail : ∀ char ∈ trail, Text.isBlank char = true)
    (last :
      ∀ char, (before ++ mark ++ (authority ++ path ++ suffix')).getLast? =
        some char →
      Text.isBlank char = false) :
    Text.trim (String.ofList
      (lead ++ (before ++ mark ++ (authority ++ path ++ suffix')) ++ trail)) =
      String.ofList (before ++ mark ++ (authority ++ path ++ suffix')) := by
  have first : ∀ char,
      (before ++ mark ++ (authority ++ path ++ suffix')).head? = some char →
      Text.isBlank char = false := by
    intro char found
    have inFront : (before ++ mark).head? = some char := by
      cases before with
      | nil => exact found
      | cons stands before => exact found
    have whole : Text.trimChars Text.isBlank url.toList =
        before ++ mark ++ (authority ++ path ++ suffix) := by
      rw [← cut.whole, Text.trim, String.toList_ofList]
    have begins : (Text.trimChars Text.isBlank url.toList).head? = some char := by
      rw [whole, List.head?_append, inFront, Option.some_or]
    exact Text.trimChars_first begins
  rw [Text.trim, String.toList_ofList, Text.trimChars_around blankLead
    blankTrail, Text.trimChars_of_kept first last]

theorem isCut_of_parse {url : String} {target : RequestTarget}
    (accepted : parse url = .ok target) :
    ∃ before suffix, IsCut (Text.trim url).toList before target.authority.toList
      target.path.toList suffix := by
  obtain ⟨_, _, before, rest, _, _, found, rfl⟩ := parse_eq_ok_iff.1 accepted
  refine ⟨before, _, isCut_iff.2 ⟨rest, found, ?_, ?_, rfl⟩⟩
  · exact String.toList_ofList
  · exact String.toList_ofList

theorem eq_of_parse {url : String} {target : RequestTarget}
    (accepted : parse url = .ok target)
    (cut : IsCut (Text.trim url).toList before authority path suffix) :
    target = ⟨String.ofList authority, String.ofList path⟩ := by
  obtain ⟨_, _, found⟩ := isCut_of_parse accepted
  obtain ⟨_, sameAuthority, samePath, _⟩ := found.unique cut
  rw [sameAuthority, samePath, String.ofList_toList, String.ofList_toList]

/-! ### Cuts among bytes -/

def byteEndsAuthority (byte : UInt8) : Bool :=
  byte == 0x2f || byte == 0x3f || byte == 0x23

def byteEndsPath (byte : UInt8) : Bool :=
  byte == 0x3f || byte == 0x23

/-- The target in the bytes of what follows the mark, each cut made in front of
a byte; nothing if a cut falls inside a character. -/
def ofBytes? (rest : Bytes) : Option RequestTarget := do
  let authority ← Utf8.decode? (rest.takeWhile (¬ byteEndsAuthority ·))
  let path ← Utf8.decode? ((rest.dropWhile (¬ byteEndsAuthority ·)).takeWhile
      (¬ byteEndsPath ·))
  some ⟨authority, path⟩

private theorem ne_of_high {char stop : Char} (high : 128 ≤ char.toNat)
    (low : stop.toNat < 128) : char ≠ stop := by
  rintro rfl
  omega

private theorem byte_ne_of_high {byte stop : UInt8} (high : 128 ≤ byte.toNat)
    (low : stop.toNat < 128) : (byte == stop) = false := by
  rw [beq_eq_false_iff_ne]
  rintro rfl
  omega

theorem authority_alike : Utf8.KeepsAlike (¬ endsAuthority ·)
    (¬ byteEndsAuthority ·) where
  low := by decide
  highChar char high := not_endsAuthority_iff.2
    ⟨ne_of_high high (by decide), ne_of_high high (by decide),
      ne_of_high high (by decide)⟩
  highByte byte high := by
    rw [byteEndsAuthority, byte_ne_of_high high (by decide),
      byte_ne_of_high high (by decide), byte_ne_of_high high (by decide)]
    rfl

theorem path_alike : Utf8.KeepsAlike (¬ endsPath ·) (¬ byteEndsPath ·) where
  low := by decide
  highChar char high := not_endsPath_iff.2 ⟨ne_of_high high (by decide),
    ne_of_high high (by decide)⟩
  highByte byte high := by
    rw [byteEndsPath, byte_ne_of_high high (by decide),
      byte_ne_of_high high (by decide)]
    rfl

/-- Each cut falls between characters, and it is the cut that is made among
them. -/
theorem ofBytes?_encodeChars (rest : List Char) :
    ofBytes? (Utf8.encodeChars rest) = some (ofRest rest) := by
  obtain ⟨front, behind⟩ := authority_alike.cut rest
  have read (chars : List Char) : Utf8.decode? (Utf8.encodeChars chars) =
      some (String.ofList chars) := by
    rw [← Utf8.decode?_encode, Utf8.encode, String.toList_ofList]
  rw [ofBytes?, front, behind, (path_alike.cut _).1, read, read]
  rfl

/-! ### Claims -/

def IsSigned (target : RequestTarget) (url : String) : Prop :=
  ∀ (σ : Type) (manager : Manager) (handler : Program.Handler StoreInterface σ)
    (state : σ) (tape : Tape) (request : Request) (token : String)
    (parts : Jws.Parts RequestClaims),
    request.url = url → -2 ^ 63 ≤ request.timestamp → request.timestamp < 2 ^ 63 →
    manager.minted handler state tape request = some (.ok token) →
    Jws.decompose RequestClaims token = .ok parts →
    parts.payload.authority = target.authority ∧
      parts.payload.path = nonEmpty (some target.path)

theorem isSigned_of_parse {url : String} {target : RequestTarget}
    (settled : ∀ other, parse url = .ok other → other = target) :
    target.IsSigned url := by
  intro σ manager handler state tape request token parts same
    lower upper made read
  rcases Manager.minted_eq_ok_iff.1 made with ⟨other, entry, thumbprint, _,
    signature, parsed, _, _, _, _, rfl⟩
  rw [same] at parsed
  obtain rfl := settled other parsed
  by_cases empty : signature = []
  · rw [empty, Jws.decompose_token_nil] at read
    cases read
  · rw [Jws.decompose_token _ (Request.claims_read lower upper _ entry.publicKey
      thumbprint) empty] at read
    cases read
    exact ⟨rfl, rfl⟩

/-- An accepted text, without the white space around it, is cut at its first
mark into what stands before it, the authority, the path, and a query or a
fragment, in this one way and without loss; no cut falls inside a character.
Something else in the place of the query or the fragment leaves the target, and
with it the claims that are signed. A text that is refused is an invalid
argument. -/
theorem parse_cuts_without_loss (url : String) :
    (∀ target, parse url = .ok target → ∃ before suffix,
      IsCut (Text.trim url).toList before target.authority.toList
        target.path.toList suffix ∧
      (∀ before' authority' path' suffix',
        IsCut (Text.trim url).toList before' authority' path' suffix' →
        before' = before ∧ authority' = target.authority.toList ∧
          path' = target.path.toList ∧ suffix' = suffix) ∧
      ofBytes? (Utf8.encodeChars (target.authority.toList ++ target.path.toList
        ++ suffix)) = some target ∧
      target.IsSigned url ∧
      ∀ lead suffix' trail replaced, (∀ char ∈ lead, Text.isBlank char = true) →
        (∀ char ∈ trail, Text.isBlank char = true) → IsSuffix suffix' →
        replaced = before ++ mark
          ++ (target.authority.toList ++ target.path.toList ++ suffix') →
        (∀ char, replaced.getLast? = some char → Text.isBlank char = false) →
        (∀ other, parse (String.ofList (lead ++ replaced ++ trail)) =
          .ok other → other = target) ∧
        target.IsSigned (String.ofList (lead ++ replaced ++ trail))) ∧
    ∀ failure, parse url = .error failure →
      ∃ detail, failure = .argumentInvalid detail := by
  refine ⟨?_, fun failure refused => argumentInvalid_of_parse refused⟩
  intro target accepted
  obtain ⟨before, suffix, cut⟩ := isCut_of_parse accepted
  have settled : ∀ other, parse url = .ok other → other = target :=
    fun other again =>
    Except.ok.inj (again.symm.trans accepted)
  have rest : ofRest (target.authority.toList ++ target.path.toList ++ suffix) =
      target := by
    obtain ⟨rest, found, sameAuthority, samePath, sameSuffix⟩ := isCut_iff.1 cut
    have whole : target.authority.toList ++ target.path.toList ++ suffix =
        rest := by
      rw [sameAuthority, samePath, sameSuffix, List.append_assoc,
        List.takeWhile_append_dropWhile, List.takeWhile_append_dropWhile]
    rw [whole, ofRest, ← sameAuthority, ← samePath, String.ofList_toList,
      String.ofList_toList]
  refine ⟨before, suffix, cut, fun _ _ _ _ => cut.unique, ?_,
    isSigned_of_parse settled, ?_⟩
  · rw [ofBytes?_encodeChars, rest]
  · rintro lead suffix' trail _ blankLead blankTrail isSuffix rfl last
    have again := cut.replace isSuffix
    have trimmed := cut.trim_replaced blankLead blankTrail last
    rw [← String.toList_ofList (l :=
      before ++ mark ++ (target.authority.toList
        ++ target.path.toList ++ suffix')),
      ← trimmed] at again
    have kept :
        ∀ other,
          parse (String.ofList
            (lead ++ (before ++ mark ++ (target.authority.toList ++
        target.path.toList ++ suffix')) ++ trail)) = .ok other →
        other = target := by
      intro other parsed
      rw [eq_of_parse parsed again, String.ofList_toList, String.ofList_toList]
    exact ⟨kept, isSigned_of_parse kept⟩

/-- The case of a text with a second mark in its query, and of a fragment in the
place of the query. -/
theorem parse_cuts_without_loss_fragment :
    parse " https://[::1]:443/a/b?c=://d#e" = .ok ⟨"[::1]:443", "/a/b"⟩ ∧
    IsCut (Text.trim " https://[::1]:443/a/b?c=://d#e").toList "https".toList
      "[::1]:443".toList "/a/b".toList "?c=://d#e".toList ∧
    parse " https://[::1]:443/a/b#/é\n" = .ok ⟨"[::1]:443", "/a/b"⟩ ∧
    IsSigned ⟨"[::1]:443", "/a/b"⟩ " https://[::1]:443/a/b#/é\n" := by
  have accepted : parse " https://[::1]:443/a/b?c=://d#e" =
      .ok ⟨"[::1]:443", "/a/b"⟩ := by
    decide +kernel
  have found : IsCut (Text.trim " https://[::1]:443/a/b?c=://d#e").toList
      "https".toList "[::1]:443".toList "/a/b".toList "?c=://d#e".toList :=
    isCut_iff.2 ⟨"[::1]:443/a/b?c=://d#e".toList, by decide +kernel, by
      decide +kernel, by decide +kernel,
      by decide +kernel⟩
  obtain ⟨before, suffix, _, unique, _, _, replacing⟩ :=
    (parse_cuts_without_loss " https://[::1]:443/a/b?c=://d#e").1 _ accepted
  obtain ⟨rfl, _, _, rfl⟩ := unique _ _ _ _ found
  have isSuffix : IsSuffix "#/é".toList := by
    intro char first
    exact .inr (Option.some.inj first).symm
  have last :
      ∀ char,
        ("https".toList ++ mark ++ ("[::1]:443".toList ++ "/a/b".toList
          ++ "#/é".toList)).getLast? =
      some char → Text.isBlank char = false := by
    have ends :
        ("https".toList ++ mark ++ ("[::1]:443".toList ++ "/a/b".toList
          ++ "#/é".toList)).getLast? =
        some 'é' := by decide +kernel
    intro char found
    cases ends.symm.trans found
    decide
  have other := replacing [' '] "#/é".toList ['\n']
    _ (List.forall_mem_singleton.2 (by decide))
    (List.forall_mem_singleton.2 (by decide)) isSuffix rfl last
  have spelled :
      String.ofList ([' '] ++ ("https".toList ++ mark
        ++ ("[::1]:443".toList ++ "/a/b".toList ++
      "#/é".toList)) ++ ['\n']) = " https://[::1]:443/a/b#/é\n" := by
    decide +kernel
  rw [spelled] at other
  exact ⟨accepted, found, by decide +kernel, other.2⟩

end RequestTarget

end BoundKey
