import BoundKey.Manager.RequestTarget
import BoundKey.Proofs.Url.Area
import BoundKey.Proofs.Url.Scheme

set_option autoImplicit false

/-!
The signed target and the real one. What is signed is cut out of a URL's text at
its first mark, and the URL is read by other rules. The authority that is signed
names the host of the URL in exactly two cases: the scheme stands in front of
the mark, and reading the URL passes over nothing of the authority that would
have to stay; or the text in front of the mark already leads to that host.
-/

namespace BoundKey

namespace Url

/-- An authority names the host of a URL: behind the scheme it leads to the same
host and the same port. -/
def NamedBy (url : Url) (authority : String) : Prop :=
  authority ≠ "" ∧
    ∃ named, parse (String.ofList url.scheme ++ "://" ++ authority ++ "/") =
      .ok named ∧
    named.host? = url.host? ∧ named.port? = url.port?

/-! ### What stands in front of the query -/

theorem beforeQuery_append {front : List Char}
    (plain : ∀ char ∈ front, char ≠ '?' ∧ char ≠ '#') (back : List Char) :
    beforeQuery (front ++ back) = front ++ beforeQuery back := by
  rw [beforeQuery, List.takeWhile_append_of_pos fun char member =>
    decide_eq_true (plain char member).2,
    List.takeWhile_append_of_pos fun char member =>
      decide_eq_true (plain char member).1, beforeQuery]

theorem beforeQuery_plain {text : List Char}
    (plain : ∀ char ∈ text, char ≠ '?' ∧ char ≠ '#') :
    beforeQuery text = text := by
  have whole := beforeQuery_append plain []
  rwa [List.append_nil, show beforeQuery [] = [] from rfl,
    List.append_nil] at whole

private theorem endsAuthority_iff {char : Char} :
    RequestTarget.endsAuthority char = true ↔
      char = '/' ∨ char = '?' ∨ char = '#' := by
  rw [RequestTarget.endsAuthority, Bool.or_eq_true, Bool.or_eq_true, beq_iff_eq,
    beq_iff_eq, beq_iff_eq, or_assoc]

private theorem plain_of_not_endsAuthority
    {char : Char} (inside : RequestTarget.endsAuthority char = false) :
    char ≠ '/' ∧ char ≠ '?' ∧ char ≠ '#' := by
  rw [← Bool.not_eq_true, endsAuthority_iff, not_or, not_or] at inside
  exact inside

private theorem beforeQuery_authority {authority : List Char} {stop : Char}
    (plain : ∀ char ∈ authority, char ≠ '?' ∧ char ≠ '#')
    (stops : RequestTarget.endsAuthority stop = true)
    (back : List Char) :
    ∃ rest, IsCut rest ∧ beforeQuery (authority ++ stop :: back) =
      authority ++ rest := by
  rw [beforeQuery_append plain]
  refine ⟨beforeQuery (stop :: back), ?_, rfl⟩
  rcases endsAuthority_iff.1 stops with rfl | rfl | rfl
  · exact .inr ⟨beforeQuery back, rfl⟩
  · exact .inl rfl
  · exact .inl rfl

/-! ### Authorities behind a scheme -/

private theorem significant_authority
    {scheme : List Char} (isScheme : IsScheme scheme) (authority : List Char) :
    significant (String.ofList scheme ++ "://"
      ++ String.ofList authority ++ "/") =
      scheme ++ ':' :: '/' :: '/' :: (counted authority ++ ['/']) := by
  have spelled : String.ofList scheme ++ "://" ++ String.ofList authority ++ "/" =
      String.ofList (scheme ++ ':' ::
        ('/' :: '/' :: authority ++ '/' :: [])) := by
    rw [← String.toList_inj]
    simp
  obtain ⟨first, others, rfl, letter⟩ := isScheme.begins
  have begins : (first :: others).dropWhile isLow = first :: others := by
    apply List.dropWhile_cons_of_neg
    rw [(schemeChar_counts (isScheme.chars first List.mem_cons_self)).1]
    exact Bool.false_ne_true
  have schemeCounts : counted (first :: others) = first :: others := by
    refine List.filter_eq_self.2 fun char member => ?_
    simp [(schemeChar_counts (isScheme.chars char member)).2]
  rw [spelled, significant_append (by decide), begins, schemeCounts,
    Text.trimEnd_append_kept (by decide),
    counted_append, counted_cons (by decide), counted_cons (by decide),
    counted_cons (by decide)]
  rfl

theorem namedBy_iff {url : Url} {host : Host} {port : Option Nat}
    {text rest authority : List Char}
    (found : splitScheme? text = some (url.scheme, rest))
    (isHost : url.host? = some host) (isPort : url.port? = port)
    (plain : ∀ char ∈ authority, RequestTarget.endsAuthority char = false) :
    url.NamedBy (String.ofList authority) ↔
      Leads url.scheme ('/' :: '/' :: (counted authority ++ ['/']))
        host port := by
  obtain ⟨isScheme, reread⟩ := splitScheme?_scheme found
  have split :
      splitScheme? (significant (String.ofList url.scheme ++ "://"
        ++ String.ofList authority ++ "/")) =
      some (url.scheme, '/' :: '/' :: (counted authority ++ ['/'])) := by
    rw [significant_authority isScheme, reread]
  have inside : ∀ char ∈ counted authority, char ≠ '/' ∧ char ≠ '?' ∧
      char ≠ '#' := fun char member =>
    plain_of_not_endsAuthority (plain char (mem_counted.1 member).1)
  have main : beforeQuery ('/' :: '/' :: (counted authority ++ ['/'])) =
      '/' :: '/' :: (counted authority ++ ['/']) := by
    have stroke : '/' ≠ '?' ∧ '/' ≠ '#' := by decide
    have both : ∀ char ∈ counted authority ++ ['/'], char ≠ '?' ∧ char ≠ '#' :=
      List.forall_mem_append.2 ⟨fun char member => (inside char member).2,
        List.forall_mem_singleton.2 stroke⟩
    exact beforeQuery_plain
      (List.forall_mem_cons.2 ⟨stroke, List.forall_mem_cons.2 ⟨stroke, both⟩⟩)
  constructor
  · rintro ⟨-, named, read, sameHost, samePort⟩
    have leads := parse_leads_iff.1 ⟨named, read, rfl, sameHost.trans isHost,
      samePort.trans isPort⟩
    obtain ⟨rest', split', leads⟩ := leads
    rw [split, Option.some.injEq, Prod.mk.injEq] at split'
    rw [← split'.1, ← split'.2, main] at leads
    exact leads
  · intro leads
    have visible :=
      (leads.cut_iff (fun member => (inside _ member).1 rfl)
        (.inr ⟨[], rfl⟩)).1 leads
    obtain ⟨char, member, -⟩ := visible
    refine ⟨fun empty => ?_, ?_⟩
    · have nothing : authority = [] := by
        rw [← String.toList_ofList (l := authority), empty]
        rfl
      rw [nothing] at member
      cases member
    · obtain ⟨named, read, -, sameHost, samePort⟩ :=
        parse_leads_iff.2 ⟨_, split, main.symm ▸ leads⟩
      exact ⟨named, read, sameHost.trans isHost.symm, samePort.trans isPort.symm⟩

end Url

namespace RequestTarget

/-- There is more to an authority than backslashes and what does not count in a
URL. -/
def IsVisible (authority : List Char) : Prop :=
  ∃ char ∈ authority, char ≠ '\\' ∧ Url.isSkipped char = false

/-- A text that is authority to its end ends in a control, and no path begins in
front of it. Reading the URL drops the control; the authority keeps it. -/
structure KeepsControl (scheme rest : List Char) : Prop where
  inside : ∀ char ∈ rest, endsAuthority char = false
  control : ∃ char, rest.getLast? = some char ∧ char.toNat ≤ 0x20
  noPath : '\\' ∉ Url.openPart scheme (Url.counted rest)

/-- What an accepted text is: a URL with a host, and a mark at which the target
is cut out. -/
theorem parse_eq_ok_iff {text : String} {target : RequestTarget} :
    parse text = .ok target ↔
    ∃ url host before rest, Url.parse (Text.trim text) = .ok url ∧
      url.host? = some host ∧
      Text.splitOnce mark (Text.trim text).toList = some (before, rest) ∧
      target = ofRest rest := by
  unfold parse
  simp only
  constructor
  · intro accepted
    split at accepted
    · cases accepted
    case h_2 url read =>
        split at accepted
        case h_1 host before rest isHost found =>
            cases accepted
            exact ⟨url, host, before, rest, read, isHost, found, rfl⟩
        case h_2 => cases accepted
  · rintro ⟨url, host, before, rest, read, isHost, found, rfl⟩
    rw [read]
    simp only [isHost, found]

/-! ### The scheme in front of the mark -/

private theorem significant_mark (before rest : List Char) :
    Url.significant (String.ofList (before ++ mark ++ rest)) =
      Url.counted (before.dropWhile Url.isLow) ++ ':' :: '/' :: '/' ::
        Url.counted (Text.trimEnd Url.isLow rest) := by
  have spelled : before ++ mark ++ rest =
      before ++ ':' :: ('/' :: '/' :: rest) := by
    rw [mark, List.append_assoc]
    rfl
  have strokes : Text.trimEnd Url.isLow ('/' :: '/' :: rest) =
      '/' :: '/' :: Text.trimEnd Url.isLow rest :=
    Text.trimEnd_append_kept (by decide) ['/'] rest
  rw [spelled, Url.significant_append (by decide), strokes,
    Url.counted_cons (by decide), Url.counted_cons (by decide)]

private theorem isVisible_iff {authority : List Char} :
    IsVisible authority ↔ ∃ char ∈ Url.counted authority, char ≠ '\\' := by
  constructor
  · rintro ⟨char, member, other, counts⟩
    exact ⟨char, Url.mem_counted.2 ⟨member, counts⟩, other⟩
  · rintro ⟨char, member, other⟩
    obtain ⟨inside, counts⟩ := Url.mem_counted.1 member
    exact ⟨char, inside, other, counts⟩

section Ends

variable {scheme authority : List Char} {host : Url.Host} {port : Option Nat}

private theorem noStroke_counted
    (plain : ∀ char ∈ authority, endsAuthority char = false) :
    '/' ∉ Url.counted authority := by
  intro member
  cases plain '/' (Url.mem_counted.1 member).1

private theorem noQuery_counted
    (plain : ∀ char ∈ authority, endsAuthority char = false) :
    ∀ char ∈ Url.counted authority, char ≠ '?' ∧ char ≠ '#' := fun char member =>
  (Url.plain_of_not_endsAuthority (plain char (Url.mem_counted.1 member).1)).2

private theorem leads_before_stop {stop : Char} {behind : List Char}
    (plain : ∀ char ∈ authority, endsAuthority char = false)
    (ends : endsAuthority stop = true) (leads : Url.Leads scheme
      ('/' :: '/' :: Url.beforeQuery
        (Url.counted (Text.trimEnd Url.isLow (authority ++ stop :: behind))))
        host port) :
    Url.Leads scheme ('/' :: '/' :: (Url.counted authority ++ ['/'])) host
      port ↔ IsVisible authority := by
  have stays : Url.isLow stop = false ∧ Url.isSkipped stop = false := by
    rcases Url.endsAuthority_iff.1 ends with rfl | rfl | rfl
    · exact ⟨by decide, by decide⟩
    · exact ⟨by decide, by decide⟩
    · exact ⟨by decide, by decide⟩
  obtain ⟨more, cut, same⟩ :=
    Url.beforeQuery_authority (noQuery_counted plain) ends
    (Url.counted (Text.trimEnd Url.isLow behind))
  rw [Text.trimEnd_append_kept stays.1, Url.counted_append,
    Url.counted_cons stays.2, same] at leads
  rw [isVisible_iff]
  exact leads.cut_iff (noStroke_counted plain) cut

/-- Where nothing is dropped at the end of the text, what is read is what is
signed. -/
private theorem leads_at_end
    (plain : ∀ char ∈ authority, endsAuthority char = false)
    (high : ∀ char, authority.getLast? = some char → Url.isLow char = false)
    (leads : Url.Leads scheme
      ('/' :: '/' :: Url.beforeQuery
        (Url.counted (Text.trimEnd Url.isLow authority))) host port) :
    Url.Leads scheme ('/' :: '/' :: (Url.counted authority ++ ['/'])) host
      port ↔ IsVisible authority := by
  have nothing : Url.IsCut [] := .inl rfl
  rw [Text.trimEnd_of_kept high, Url.beforeQuery_plain (noQuery_counted plain),
    ← List.append_nil (Url.counted authority)] at leads
  rw [isVisible_iff]
  exact leads.cut_iff (noStroke_counted plain) nothing

/-- Where a control at the end is dropped, what is signed has it and what is
read has not. -/
private theorem leads_before_control
    {char : Char} (plain : ∀ char ∈ authority, endsAuthority char = false)
    (last : authority.getLast? = some char) (low : Url.isLow char = true)
    (counts : Url.isSkipped char = false) (leads : Url.Leads scheme
      ('/' :: '/' :: Url.beforeQuery
        (Url.counted (Text.trimEnd Url.isLow authority))) host port) :
    Url.Leads scheme ('/' :: '/' :: (Url.counted authority ++ ['/'])) host port ↔
      '\\' ∈ Url.openPart scheme (Url.counted authority) := by
  obtain ⟨dropped, parts, controls⟩ := Text.trimEnd_append Url.isLow authority
  have high : ∀ other, (Text.trimEnd Url.isLow authority).getLast? =
      some other → Url.isLow other = false :=
    fun _ => Text.trimEnd_last
  generalize Text.trimEnd Url.isLow authority = kept at parts high leads
  subst parts
  have plainKept : ∀ other ∈ kept, endsAuthority other = false :=
    fun other member =>
    plain other (List.mem_append_left dropped member)
  have lastDropped : char ∈ dropped := by
    rw [List.getLast?_append] at last
    cases lastOf : dropped.getLast? with
    | none =>
        rw [lastOf, Option.none_or] at last
        rw [high char last] at low
        cases low
    | some other =>
        rw [lastOf, Option.some_or, Option.some.injEq] at last
        exact List.mem_of_getLast? (last ▸ lastOf)
  have present : Url.counted dropped ≠ [] :=
    List.ne_nil_of_mem (Url.mem_counted.2 ⟨lastDropped, counts⟩)
  have below : ∀ other ∈ Url.counted dropped, other.toNat ≤ 32 :=
    fun other member =>
    of_decide_eq_true (controls other (Url.mem_counted.1 member).1)
  rw [Url.beforeQuery_plain (noQuery_counted plainKept)] at leads
  rw [Url.counted_append]
  exact leads.low_iff (noStroke_counted plainKept) present below

end Ends

private theorem isBlank_of_isSkipped
    {char : Char} (skipped : Url.isSkipped char = true) :
    Text.isBlank char = true := by
  rcases Url.isSkipped_iff.1 skipped with rfl | rfl | rfl
  · rfl
  · rfl
  · rfl

variable {url : Url} {host : Url.Host} {before rest : List Char}

private theorem namedBy_of_scheme
    (read : Url.parse (String.ofList (before ++ mark ++ rest)) = .ok url)
    (isHost : url.host? = some host) (noColon : ':' ∉ before)
    (trimmed : ∀ char, rest.getLast? = some char → Text.isBlank char = false) :
    url.NamedBy (ofRest rest).authority ↔
      IsVisible (ofRest rest).authority.toList ∧
        ¬ KeepsControl url.scheme rest := by
  obtain ⟨main, split, leads⟩ :=
    Url.parse_leads_iff.1 ⟨url, read, rfl, isHost, rfl⟩
  have noColonRead : ':' ∉ Url.counted (before.dropWhile Url.isLow) :=
    fun member =>
    noColon ((List.dropWhile_sublist _).mem (Url.mem_counted.1 member).1)
  rw [significant_mark] at split
  rw [Url.splitScheme?_rest noColonRead split] at leads
  change Url.Leads url.scheme
    ('/' :: '/' :: Url.beforeQuery (Url.counted (Text.trimEnd Url.isLow rest)))
    host _ at leads
  have signed : (ofRest rest).authority =
      String.ofList (rest.takeWhile (¬ endsAuthority ·)) := rfl
  have plain : ∀ char ∈ rest.takeWhile (¬ endsAuthority ·), endsAuthority char =
      false := fun char member => by
    simpa using List.all_eq_true.1 List.all_takeWhile char member
  rw [signed, String.toList_ofList, Url.namedBy_iff split isHost rfl plain]
  rcases Text.kept_or_stop (¬ endsAuthority ·) rest with whole | ⟨authority,
    stop, behind, rfl, kept, stops⟩
  · rw [List.takeWhile_eq_self_iff.2 whole] at plain ⊢
    by_cases controlled : ∃ char, rest.getLast? = some char ∧
      Url.isLow char = true
    · obtain ⟨char, last, low⟩ := controlled
      have counts : Url.isSkipped char = false := by
        rw [← Bool.not_eq_true]
        intro skipped
        have kept := trimmed char last
        rw [isBlank_of_isSkipped skipped] at kept
        cases kept
      have visible : IsVisible rest := by
        refine ⟨char, List.mem_of_getLast? last, ?_, counts⟩
        rintro rfl
        cases low
      have keeps : KeepsControl url.scheme rest ↔
          '\\' ∉ Url.openPart url.scheme (Url.counted rest) :=
        ⟨KeepsControl.noPath, fun noPath =>
          ⟨plain, ⟨char, last, of_decide_eq_true low⟩, noPath⟩⟩
      rw [leads_before_control plain last low counts leads,
        and_iff_right visible, keeps, Decidable.not_not]
    · have high : ∀ char, rest.getLast? = some char → Url.isLow char = false :=
        fun char last =>
        eq_false_of_ne_true fun low => controlled ⟨char, last, low⟩
      have noControl : ¬ KeepsControl url.scheme rest := fun keeps => by
        obtain ⟨char, last, low⟩ := keeps.control
        exact controlled ⟨char, last, decide_eq_true low⟩
      rw [leads_at_end plain high leads, and_iff_left noControl]
  · have ends : endsAuthority stop = true := by simpa using stops
    have noControl : ¬ KeepsControl url.scheme (authority ++ stop :: behind) :=
      fun keeps => by
      have inside :=
        keeps.inside stop (List.mem_append_right authority List.mem_cons_self)
      rw [ends] at inside
      cases inside
    rw [Text.takeWhile_stop kept stops] at plain ⊢
    rw [leads_before_stop plain ends leads, and_iff_left noControl]

/-! ### The scheme elsewhere -/

private theorem leads_of_mark {scheme front back : List Char} {port : Option Nat}
    (leads :
      Url.Leads scheme (Url.beforeQuery (front ++ ':' :: '/' :: '/' :: back))
        host port) :
    Url.Leads scheme (Url.beforeQuery (front ++ mark)) host port := by
  rcases Text.kept_or_stop (fun char => decide (char ≠ '?' ∧ char ≠ '#'))
    front with whole | ⟨kept, stop, behind, rfl, before, stops⟩
  · have plain : ∀ char ∈ front, char ≠ '?' ∧ char ≠ '#' := fun char member =>
      of_decide_eq_true (whole char member)
    rw [Url.beforeQuery_append plain] at leads ⊢
    exact Url.Leads.of_append_mark leads
  · have plain : ∀ char ∈ kept, char ≠ '?' ∧ char ≠ '#' := fun char member =>
      of_decide_eq_true (before char member)
    have nothing : ∀ rest, Url.beforeQuery (stop :: rest) = [] := by
      intro rest
      have isStop : stop = '?' ∨ stop = '#' := by
        rw [decide_eq_false_iff_not, Decidable.not_and_iff_not_or_not,
          Decidable.not_not, Decidable.not_not] at stops
        exact stops
      rcases isStop with rfl | rfl
      · rfl
      · rfl
    rw [List.append_assoc, List.cons_append, Url.beforeQuery_append plain,
      nothing] at leads ⊢
    exact leads

/-- Where the scheme does not stand in front of the mark, the text up to the
mark already has the host and the port. -/
private theorem parse_before_mark
    (read : Url.parse (String.ofList (before ++ mark ++ rest)) = .ok url)
    (isHost : url.host? = some host) (colon : ':' ∈ before) :
    ∃ earlier, Url.parse (String.ofList (before ++ mark)) = .ok earlier ∧
      earlier.scheme = url.scheme ∧
      earlier.host? = url.host? ∧ earlier.port? = url.port? := by
  obtain ⟨main, split, leads⟩ :=
    Url.parse_leads_iff.1 ⟨url, read, rfl, isHost, rfl⟩
  have colonRead : ':' ∈ Url.counted (before.dropWhile Url.isLow) := by
    have around : before.takeWhile Url.isLow ++ before.dropWhile Url.isLow =
        before := List.takeWhile_append_dropWhile
    rw [← around, List.mem_append] at colon
    refine Url.mem_counted.2 ⟨colon.resolve_left fun member => ?_, rfl⟩
    cases List.all_eq_true.1 List.all_takeWhile ':' member
  rw [significant_mark] at split
  obtain ⟨behind, rfl, splitOther⟩ := Url.splitScheme?_append colonRead split
  have splitEarlier :
      Url.splitScheme? (Url.significant (String.ofList (before ++ mark))) =
      some (url.scheme, behind ++ mark) := by
    rw [← List.append_nil (before ++ mark), significant_mark]
    exact splitOther mark
  obtain ⟨earlier, readEarlier, sameScheme, hostEarlier, samePort⟩ :=
    Url.parse_leads_iff.2 ⟨behind ++ mark, splitEarlier, leads_of_mark leads⟩
  exact ⟨earlier, readEarlier, sameScheme,
    hostEarlier.trans isHost.symm, samePort⟩

/-- The signed authority names the host of the URL in two cases only. Where the
scheme stands in front of the mark, the authority must show something and end in
no control that reading the URL drops; where it does not, the text up to the
mark must already lead to the host that the authority happens to name. -/
theorem namedBy_signed_iff {text : String} {target : RequestTarget}
    (accepted : parse text = .ok target) :
    ∃ url before rest, Url.parse (Text.trim text) = .ok url ∧
      Text.splitOnce mark (Text.trim text).toList = some (before, rest) ∧
      (url.NamedBy target.authority ↔
        (':' ∉ before ∧ IsVisible target.authority.toList ∧
          ¬ KeepsControl url.scheme rest) ∨
        (':' ∈ before ∧ ∃ earlier,
          Url.parse (String.ofList (before ++ mark)) = .ok earlier ∧
          earlier.NamedBy target.authority)) := by
  obtain ⟨url, host, before, rest, read, isHost, found, rfl⟩ :=
    parse_eq_ok_iff.1 accepted
  refine ⟨url, before, rest, read, found, ?_⟩
  have parts := Text.eq_of_splitOnce found
  have spelled : Text.trim text = String.ofList (before ++ mark ++ rest) := by
    rw [← parts, String.ofList_toList]
  rw [spelled] at read
  by_cases colon : ':' ∈ before
  · obtain ⟨earlier, readEarlier, sameScheme, sameHost, samePort⟩ :=
      parse_before_mark read isHost colon
    have same : earlier.NamedBy (ofRest rest).authority ↔
        url.NamedBy (ofRest rest).authority := by
      rw [Url.NamedBy, Url.NamedBy, sameScheme, sameHost, samePort]
    constructor
    · exact fun named => .inr ⟨colon, earlier, readEarlier, same.2 named⟩
    · rintro (⟨noColon, -⟩ | ⟨-, found, readFound, named⟩)
      · exact absurd colon noColon
      · rw [readEarlier, Except.ok.injEq] at readFound
        exact same.1 (readFound ▸ named)
  · have trimmed : ∀ char, rest.getLast? = some char →
        Text.isBlank char = false := by
      intro char last
      have lastTrimmed :
          (Text.trimEnd Text.isBlank
            (text.toList.dropWhile Text.isBlank)).getLast? = some char := by
        have whole : Text.trimEnd Text.isBlank
            (text.toList.dropWhile Text.isBlank) = before ++ mark ++ rest := by
          rw [← parts, Text.trim, String.toList_ofList]
          rfl
        rw [whole, List.getLast?_append, last, Option.some_or]
      exact Text.trimEnd_last lastTrimmed
    rw [namedBy_of_scheme read isHost colon trimmed]
    constructor
    · exact fun both => .inl ⟨colon, both⟩
    · rintro (⟨-, both⟩ | ⟨here, -⟩)
      · exact both
      · exact absurd here colon

/-- The case of a text whose only mark stands in its query. -/
theorem namedBy_signed_iff_query :
    parse "https:[::1]/?r=://[::2]/p" = .ok ⟨"[::2]", "/p"⟩ ∧
    ∃ url before rest,
      Url.parse (Text.trim "https:[::1]/?r=://[::2]/p") = .ok url ∧
      Text.splitOnce mark (Text.trim "https:[::1]/?r=://[::2]/p").toList =
        some (before, rest) ∧
      (url.NamedBy "[::2]" ↔
        (':' ∉ before ∧ IsVisible "[::2]".toList ∧
          ¬ KeepsControl url.scheme rest) ∨
        (':' ∈ before ∧ ∃ earlier,
          Url.parse (String.ofList (before ++ mark)) = .ok earlier ∧
          earlier.NamedBy "[::2]")) := by
  have accepted : parse "https:[::1]/?r=://[::2]/p" = .ok ⟨"[::2]", "/p"⟩ := by
    decide +kernel
  exact ⟨accepted, namedBy_signed_iff accepted⟩

/-- In that text the authority that is signed is another host's. -/
theorem not_namedBy_query :
    parse "https:[::1]/?r=://[::2]/p" = .ok ⟨"[::2]", "/p"⟩ ∧
    ∃ url, Url.parse (Text.trim "https:[::1]/?r=://[::2]/p") = .ok url ∧
      ¬ url.NamedBy "[::2]" := by
  let authority : Authority := ⟨[], some (.long [0, 0, 0, 0, 0, 0, 0, 1]), none⟩
  refine ⟨by decide +kernel,
    ⟨"https".toList, some authority, ['/'], some "r=://[::2]/p".toList,
      none⟩, by decide +kernel, ?_⟩
  rintro ⟨-, named, read, sameHost, -⟩
  have other :
      (Url.parse (String.ofList "https".toList ++ "://" ++ "[::2]" ++ "/")).map
        Url.host? =
      .ok (some (.long [0, 0, 0, 0, 0, 0, 0, 2])) := by
    decide +kernel
  rw [read] at other
  have impossible := sameHost.symm.trans (Except.ok.inj other)
  revert impossible
  decide

end RequestTarget

end BoundKey
