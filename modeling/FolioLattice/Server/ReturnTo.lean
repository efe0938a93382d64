/-
Where a sign-in returns to: the path that the sign-in page offers and the path that
`/auth/start` takes.
-/

import FolioLattice.Server.Query

namespace FolioLattice.Server

open FolioLattice.Text FolioLattice.Data

/-! ### Paths -/

def returnPages : List (List Char) :=
  ["inspect".toList, "artifacts".toList, "standalone".toList, "workspace".toList]

/-- A page of the workspace with one more segment, which is not empty and has only
characters that are allowed in it. -/
def namesPage (allowed : Char → Bool) (value : List Char) : Bool :=
  match value.splitOn '/' with
  | [first, page, leaf] =>
      first.isEmpty && returnPages.contains page && !leaf.isEmpty && leaf.all allowed
  | _ => false

/-- `value.startswith("/") and not value.startswith("//")` -/
def oneSlash : List Char → Bool
  | '/' :: rest => rest.head? ≠ some '/'
  | _ => false

def noMark (c : Char) : Bool := c ≠ '?' && c ≠ '#' && c ≠ '\\'

def printable (c : Char) : Bool := 0x21 ≤ c.toNat && c.toNat < 0x7f

/-! ### The sign-in page -/

/-- The inspection application's `_safe_return_to`, on a string. -/
def signInSafeReturnTo (value : List Char) : List Char :=
  if value = ['/'] then ['/']
  else if !oneSlash value then ['/']
  else if namesPage noMark value then value
  else ['/']

def returnTo : List Char := "return_to".toList

/-- What the inspection application's `_request_return_to` reads. -/
def signInValue (queryString : Bytes) : List Char :=
  match decodeAscii queryString with
  | none => ['/']
  | some query => (queryValues false returnTo query).headD ['/']

/-- The inspection application's `_request_return_to` -/
def signInReturnTo (queryString : Bytes) : List Char :=
  signInSafeReturnTo (signInValue queryString)

/-- What the page has of the path: its attribute and the link to the provider. -/
structure SignInPage where
  dataReturnTo : List Char
  authProvider : Option (List Char)

def startPath : List Char := "/auth/start".toList

def startLink : List Char := startPath ++ '?' :: (returnTo ++ ['='])

/-- `ui_html(…, auth_state=…, sign_in=True, return_to=…)` -/
def signInPage (authState : String) (returnTo : List Char) : SignInPage :=
  let safeReturnTo := signInSafeReturnTo returnTo
  { dataReturnTo := escape safeReturnTo
    authProvider :=
      if authState = "hosted" ∨ authState = "authenticated" then
        some (startLink ++ escape (asciiText (quote safeReturnTo)))
      else none }

/-! ### The server -/

def maxAuthQueryBytes : Nat := 8 * 1024

def maxAuthQueryValue : Nat := 4 * 1024

/-- The server's `_safe_return_to`, on a string. -/
def authSafeReturnTo (value : List Char) : Option (List Char) :=
  if value = ['/'] then some ['/']
  else if maxAuthQueryValue < value.length || !oneSlash value then none
  else if namesPage (fun c => printable c && noMark c) value then some value
  else none

/-- The server's `_request_return_to` -/
def authReturnTo (queryString : Bytes) : List Char × Bool :=
  if maxAuthQueryBytes < queryString.length then (['/'], false)
  else
    match decodeAscii queryString with
    | none => (['/'], false)
    | some query =>
        match queryValues true returnTo query with
        | [] => (['/'], true)
        | [value] =>
            match authSafeReturnTo value with
            | some safeValue => (safeValue, true)
            | none => (['/'], false)
        | _ => (['/'], false)

/-! ### What a browser does -/

/-- The query string that a browser sends when the link is followed. -/
def linkQuery (href : List Char) : Bytes :=
  encodeUtf8 (((attributeValue href).dropWhile (fun c => c ≠ '?')).drop 1)

/-- What a browser leaves out of a URL before it reads it. -/
def isUrlSpace (c : Char) : Bool := c.toNat = 0x9 || c.toNat = 0xa || c.toNat = 0xd

/-- A reference that a browser resolves to the origin it is on: one slash at the
beginning. -/
def staysOnOrigin (path : List Char) : Bool :=
  match ((path.dropWhile (fun c => c.toNat ≤ 0x20)).filter (fun c => !isUrlSpace c)) with
  | '/' :: rest => rest.head? ≠ some '/' && rest.head? ≠ some '\\'
  | _ => false

/-! ### The paths that are offered -/

/-- A path to a page, as it is put together. -/
structure Names (allowed : Char → Bool) (value page leaf : List Char) : Prop where
  cut : value.splitOn '/' = [[], page, leaf]
  known : returnPages.contains page = true
  some_leaf : leaf.isEmpty = false
  all_allowed : leaf.all allowed = true

theorem namesPage_iff (allowed : Char → Bool) (value : List Char) :
    namesPage allowed value = true ↔ ∃ page leaf, Names allowed value page leaf := by
  unfold namesPage
  constructor
  · intro named
    split at named
    · rename_i first page leaf cut
      simp only [Bool.and_eq_true, List.isEmpty_iff, Bool.not_eq_true'] at named
      obtain ⟨⟨⟨empty, known⟩, some_leaf⟩, all_allowed⟩ := named
      rw [empty] at cut
      exact ⟨page, leaf, cut, known, some_leaf, all_allowed⟩
    · exact absurd named Bool.false_ne_true
  · rintro ⟨page, leaf, named⟩
    rw [named.cut]
    dsimp only
    rw [named.known, named.some_leaf, named.all_allowed]
    rfl

theorem Names.value_eq {allowed : Char → Bool} {value page leaf : List Char}
    (named : Names allowed value page leaf) : value = '/' :: (page ++ '/' :: leaf) := by
  have joined : ['/'].intercalate (value.splitOn '/') = value := List.intercalate_splitOn '/'
  rw [named.cut, List.intercalate_cons_cons, List.intercalate_cons_cons,
    List.intercalate_singleton] at joined
  rw [← joined, List.nil_append, List.append_assoc, List.singleton_append, List.singleton_append]

theorem returnPages_printable {page : List Char} (known : returnPages.contains page = true) :
    ∀ c ∈ page, printable c = true := by
  have all : returnPages.all (fun page => page.all printable) = true := by decide
  exact List.all_eq_true.mp (List.all_eq_true.mp all page (List.contains_iff_mem.mp known))

/-- The characters of the whole path are printable where those of its last segment are. -/
theorem namesPage_printable (value : List Char) :
    namesPage (fun c => printable c && noMark c) value = true ↔
      namesPage noMark value = true ∧ ∀ c ∈ value, printable c = true := by
  rw [namesPage_iff, namesPage_iff]
  constructor
  · rintro ⟨page, leaf, named⟩
    have each := List.all_eq_true.mp named.all_allowed
    refine ⟨⟨page, leaf, named.cut, named.known, named.some_leaf, ?_⟩, ?_⟩
    · exact List.all_eq_true.mpr (fun c member => (Bool.and_eq_true_iff.mp (each c member)).2)
    · intro c member
      rw [named.value_eq] at member
      rcases List.mem_cons.mp member with slash | member
      · rw [slash]; decide
      · rcases List.mem_append.mp member with inPage | inLeaf
        · exact returnPages_printable named.known c inPage
        · rcases List.mem_cons.mp inLeaf with slash | inLeaf
          · rw [slash]; decide
          · exact (Bool.and_eq_true_iff.mp (each c inLeaf)).1
  · rintro ⟨⟨page, leaf, named⟩, print⟩
    refine ⟨page, leaf, named.cut, named.known, named.some_leaf, ?_⟩
    refine List.all_eq_true.mpr (fun c member => Bool.and_eq_true_iff.mpr ⟨print c ?_, ?_⟩)
    · rw [named.value_eq]
      exact List.mem_cons_of_mem _ (List.mem_append_right _ (List.mem_cons_of_mem _ member))
    · exact List.all_eq_true.mp named.all_allowed c member

/-- A page's name begins with a character that leaves the slash before it alone. -/
theorem returnPages_head {page : List Char} (known : returnPages.contains page = true) :
    ∃ c rest, page = c :: rest ∧ isUrlSpace c = false ∧ c ≠ '/' ∧ c ≠ '\\' := by
  have all : ∀ page ∈ returnPages,
      page.head?.all (fun c => !isUrlSpace c && c ≠ '/' && c ≠ '\\') = true ∧ page ≠ [] := by
    decide
  obtain ⟨head, nonempty⟩ := all page (List.contains_iff_mem.mp known)
  cases page with
  | nil => exact absurd rfl nonempty
  | cons c rest =>
      simp only [List.head?_cons, Option.all_some, Bool.and_eq_true, Bool.not_eq_true',
        decide_eq_true_eq] at head
      exact ⟨c, rest, rfl, head.1.1, head.1.2, head.2⟩

theorem Names.staysOnOrigin {allowed : Char → Bool} {value page leaf : List Char}
    (named : Names allowed value page leaf) : staysOnOrigin value = true := by
  obtain ⟨c, rest, same, kept, noSlash, noBackslash⟩ := returnPages_head named.known
  rw [named.value_eq, same]
  have start : ('/' :: (c :: rest ++ '/' :: leaf)).dropWhile (fun c => c.toNat ≤ 0x20) =
      '/' :: (c :: rest ++ '/' :: leaf) := rfl
  have clean : ('/' :: (c :: rest ++ '/' :: leaf)).filter (fun c => !isUrlSpace c) =
      '/' :: c :: (rest ++ '/' :: leaf).filter (fun c => !isUrlSpace c) := by
    rw [List.filter_cons_of_pos (by decide), List.cons_append,
      List.filter_cons_of_pos (by rw [kept]; rfl)]
  unfold FolioLattice.Server.staysOnOrigin
  rw [start, clean]
  simp [noSlash, noBackslash]

theorem Names.oneSlash {allowed : Char → Bool} {value page leaf : List Char}
    (named : Names allowed value page leaf) : oneSlash value = true := by
  obtain ⟨c, rest, same, _, noSlash, _⟩ := returnPages_head named.known
  rw [named.value_eq, same]
  simp [FolioLattice.Server.oneSlash, noSlash]

theorem signInSafeReturnTo_of_names {value : List Char} (named : namesPage noMark value = true) :
    signInSafeReturnTo value = value := by
  obtain ⟨page, leaf, names⟩ := (namesPage_iff _ _).mp named
  unfold signInSafeReturnTo
  split
  · rename_i root
    exact root.symm
  · rw [names.oneSlash]
    rfl

theorem signInSafeReturnTo_else {value : List Char} (unnamed : namesPage noMark value = false) :
    signInSafeReturnTo value = ['/'] := by
  unfold signInSafeReturnTo
  rw [if_neg (ne_true_of_eq_false unnamed)]
  split_ifs <;> rfl

theorem signInSafeReturnTo_again (value : List Char) :
    signInSafeReturnTo (signInSafeReturnTo value) = signInSafeReturnTo value := by
  cases named : namesPage noMark value with
  | true => rw [signInSafeReturnTo_of_names named, signInSafeReturnTo_of_names named]
  | false => rw [signInSafeReturnTo_else named]; rfl

theorem signInSafeReturnTo_staysOnOrigin (value : List Char) :
    staysOnOrigin (signInSafeReturnTo value) = true := by
  cases named : namesPage noMark value with
  | true =>
      obtain ⟨page, leaf, names⟩ := (namesPage_iff _ _).mp named
      rw [signInSafeReturnTo_of_names named]
      exact names.staysOnOrigin
  | false => rw [signInSafeReturnTo_else named]; decide

theorem authSafeReturnTo_eq_some {value safeValue : List Char} :
    authSafeReturnTo value = some safeValue ↔ safeValue = value ∧ (value = ['/'] ∨
      value.length ≤ maxAuthQueryValue ∧ namesPage noMark value = true ∧
        ∀ c ∈ value, printable c = true) := by
  unfold authSafeReturnTo
  rw [← namesPage_printable]
  split_ifs with root refused named
  · rw [root]
    exact ⟨fun same => ⟨(Option.some.inj same).symm, Or.inl rfl⟩, fun taken => by rw [taken.1]⟩
  · simp only [Bool.or_eq_true, decide_eq_true_eq, Bool.not_eq_true'] at refused
    constructor
    · exact False.elim
    · rintro ⟨-, same | ⟨short, named⟩⟩
      · exact absurd same root
      · obtain ⟨page, leaf, names⟩ := (namesPage_iff _ _).mp named
        rcases refused with long | double
        · exact absurd short (Nat.not_le_of_lt long)
        · exact absurd (names.oneSlash.symm.trans double) Bool.noConfusion
  · simp only [Bool.or_eq_true, decide_eq_true_eq, not_or, Nat.not_lt] at refused
    constructor
    · intro same
      exact ⟨(Option.some.inj same).symm, Or.inr ⟨refused.1, named⟩⟩
    · intro taken
      rw [taken.1]
  · constructor
    · exact False.elim
    · rintro ⟨-, same | ⟨-, other⟩⟩
      · exact absurd same root
      · exact absurd other named

theorem authReturnTo_staysOnOrigin (queryString : Bytes) :
    staysOnOrigin (authReturnTo queryString).1 = true := by
  have home : staysOnOrigin ['/'] = true := by decide
  unfold authReturnTo
  split
  · exact home
  · split
    · exact home
    · split
      · exact home
      · rename_i value _
        cases safe : authSafeReturnTo value with
        | none => exact home
        | some safeValue =>
            obtain ⟨rfl, rfl | ⟨-, named, -⟩⟩ := authSafeReturnTo_eq_some.mp safe
            · exact home
            · obtain ⟨page, leaf, names⟩ := (namesPage_iff _ _).mp named
              exact names.staysOnOrigin
      · exact home

/-! ### The link that is followed -/

def returnToBytes : Bytes := encodeUtf8 returnTo

theorem escape_append (text rest : List Char) : escape (text ++ rest) = escape text ++ escape rest :=
  List.flatMap_append

theorem encodeUtf8_append (text rest : List Char) :
    encodeUtf8 (text ++ rest) = encodeUtf8 text ++ encodeUtf8 rest :=
  List.flatMap_append

/-- The query of the link is the quoted path under the name. -/
theorem linkQuery_start (path : List Char) :
    linkQuery (startLink ++ escape (asciiText (quote path))) =
      returnToBytes ++ 0x3d :: quote path := by
  have plain : escape startLink = startLink := by decide
  have read : attributeValue (startLink ++ escape (asciiText (quote path))) =
      startLink ++ asciiText (quote path) := by
    nth_rewrite 1 [← plain]
    rw [← escape_append, attributeValue_escape]
  have ascii : ∀ b ∈ quote path, b.toNat < 0x80 :=
    fun b member => (isQuoted_plain (quote_quoted path b member)).1
  have unmarked : startPath.all (fun c => decide (c ≠ '?')) = true := by decide
  have sign : encodeUtf8 ['='] = [0x3d] := by decide
  unfold linkQuery
  rw [read]
  unfold startLink
  rw [List.append_assoc, List.dropWhile_append_of_pos (List.all_eq_true.mp unmarked),
    List.cons_append,
    List.dropWhile_cons_of_neg (by decide), List.drop_one, List.tail_cons, List.append_assoc,
    encodeUtf8_append, encodeUtf8_append, encodeUtf8_asciiText ascii, sign]
  rfl

theorem queryValues_start (path : List Char) :
    queryValues true returnTo (returnToBytes ++ 0x3d :: quote path) =
      [decodeUtf8 (encodeUtf8 path)] := by
  have name : unquoteAscii (plusToSpace returnToBytes) = returnTo := by decide
  have plain : 0x26 ∉ returnToBytes := by decide
  have unsigned : returnToBytes.all (fun b => decide (b ≠ 0x3d)) = true := by decide
  have whole : 0x26 ∉ returnToBytes ++ 0x3d :: quote path := by
    intro member
    rcases List.mem_append.mp member with inName | inRest
    · exact plain inName
    · rcases List.mem_cons.mp inRest with sign | inQuote
      · exact absurd sign (by decide)
      · exact (isQuoted_plain (quote_quoted path _ inQuote)).2.1 rfl
  have field : queryField true (returnToBytes ++ 0x3d :: quote path) =
      some (returnTo, decodeUtf8 (encodeUtf8 path)) := by
    unfold queryField
    have passes := List.all_eq_true.mp unsigned
    rw [List.dropWhile_append_of_pos passes, List.takeWhile_append_of_pos passes,
      List.dropWhile_cons_of_neg (by decide), List.takeWhile_cons_of_neg (by decide),
      List.append_nil, name]
    change some (returnTo, unquoteAscii (plusToSpace (quote path))) = _
    rw [plusToSpace_quoted (quote_quoted path)]
    unfold unquoteAscii
    rw [unquoteToBytes_quote]
  unfold queryValues parseQsl
  rw [List.splitOn_eq_singleton whole, List.filterMap_cons_some field, List.filterMap_nil,
    List.filterMap_cons, if_pos rfl, List.filterMap_nil]

/-- What `/auth/start` takes when the link is followed. -/
theorem authReturnTo_start (path : List Char) :
    authReturnTo (returnToBytes ++ 0x3d :: quote path) =
      if maxAuthQueryBytes < returnToBytes.length + ((quote path).length + 1) then (['/'], false)
      else
        match authSafeReturnTo (decodeUtf8 (encodeUtf8 path)) with
        | some safeValue => (safeValue, true)
        | none => (['/'], false) := by
  have name : returnToBytes.all (fun b => decide (b.toNat < 0x80)) = true := by decide
  have ascii : decodeAscii (returnToBytes ++ 0x3d :: quote path) =
      some (returnToBytes ++ 0x3d :: quote path) := by
    unfold decodeAscii
    refine if_pos (List.all_eq_true.mpr (fun b member => decide_eq_true ?_))
    rcases List.mem_append.mp member with inName | inRest
    · exact of_decide_eq_true (List.all_eq_true.mp name b inName)
    · rcases List.mem_cons.mp inRest with sign | inQuote
      · rw [sign]; decide
      · exact (isQuoted_plain (quote_quoted path b inQuote)).1
  unfold authReturnTo
  rw [ascii]
  dsimp only
  rw [queryValues_start, List.length_append, List.length_cons]

/-! ### When the two agree -/

/-- A value that, where the sign-in page offers it, `/auth/start` takes as well: short
enough, also when it is quoted, and printable. -/
def Followable (value : List Char) : Prop :=
  namesPage noMark value = true → value.length ≤ maxAuthQueryValue ∧
    (∀ c ∈ value, printable c = true) ∧ (quote value).length + 10 ≤ maxAuthQueryBytes

theorem decodeUtf8_encodeUtf8_printable {text : List Char}
    (print : ∀ c ∈ text, printable c = true) : decodeUtf8 (encodeUtf8 text) = text := by
  have ascii : ∀ c ∈ text, c.toNat < 0x80 := by
    intro c member
    have bounds := print c member
    unfold printable at bounds
    simp only [Bool.and_eq_true, decide_eq_true_eq] at bounds
    omega
  have bytes : ∀ b ∈ text.map (fun c => UInt8.ofNat c.toNat), b.toNat < 0x80 := by
    intro b member
    obtain ⟨c, inside, same⟩ := List.mem_map.mp member
    rw [← same, toNat_ofNat_ascii (ascii c inside)]
    exact ascii c inside
  rw [encodeUtf8_ascii ascii]
  exact (decodeFrom_ascii bytes).trans (asciiText_map ascii)

/-- The path on the page comes back from `/auth/start` exactly where the value that was
asked for can be followed. -/
theorem followed_iff (value : List Char) :
    authReturnTo (returnToBytes ++ 0x3d :: quote (signInSafeReturnTo value)) =
        (signInSafeReturnTo value, true) ↔ Followable value := by
  have nameLength : returnToBytes.length = 9 := by decide
  cases named : namesPage noMark value with
  | false =>
      have home : authReturnTo (returnToBytes ++ 0x3d :: quote ['/']) = (['/'], true) := by
        decide
      rw [signInSafeReturnTo_else named]
      exact ⟨fun _ offered => absurd (named.symm.trans offered) Bool.false_ne_true, fun _ => home⟩
  | true =>
      rw [signInSafeReturnTo_of_names named, authReturnTo_start]
      constructor
      · intro followed _
        split_ifs at followed with long
        · exact absurd (congrArg Prod.snd followed) Bool.false_ne_true
        · split at followed
          · rename_i safeValue safe
            obtain ⟨same, root | ⟨short, -, print⟩⟩ := authSafeReturnTo_eq_some.mp safe
            · have back : value = ['/'] := by
                rw [← root, ← same]
                exact (congrArg Prod.fst followed).symm
              rw [back]
              exact ⟨by decide, List.all_eq_true.mp (by decide), by decide⟩
            · have back : decodeUtf8 (encodeUtf8 value) = value :=
                same.symm.trans (congrArg Prod.fst followed)
              rw [back] at short print
              exact ⟨short, print, by omega⟩
          · exact absurd (congrArg Prod.snd followed) Bool.false_ne_true
      · intro followable
        obtain ⟨short, print, quoted⟩ := followable named
        have taken : authSafeReturnTo value = some value :=
          authSafeReturnTo_eq_some.mpr ⟨rfl, Or.inr ⟨short, named, print⟩⟩
        rw [if_neg (by omega), decodeUtf8_encodeUtf8_printable print, taken]

/-- On a page that links to the provider, the path of the link comes back unchanged from
`/auth/start` exactly when the value that was asked for can be followed; the paths that the
two take stay on this origin in any case. -/
theorem return_to_exact (authState : String) (queryString : Bytes) :
    ((authState = "hosted" ∨ authState = "authenticated") →
      ∃ href, (signInPage authState (signInReturnTo queryString)).authProvider = some href ∧
        (authReturnTo (linkQuery href) =
            (attributeValue (signInPage authState (signInReturnTo queryString)).dataReturnTo, true) ↔
          Followable (signInValue queryString))) ∧
    staysOnOrigin
      (attributeValue (signInPage authState (signInReturnTo queryString)).dataReturnTo) = true ∧
    staysOnOrigin (authReturnTo queryString).1 = true := by
  have data : attributeValue (signInPage authState (signInReturnTo queryString)).dataReturnTo =
      signInSafeReturnTo (signInValue queryString) := by
    unfold signInPage signInReturnTo
    rw [attributeValue_escape, signInSafeReturnTo_again]
  rw [data]
  refine ⟨fun hosted => ?_, signInSafeReturnTo_staysOnOrigin _, authReturnTo_staysOnOrigin _⟩
  have link : (signInPage authState (signInReturnTo queryString)).authProvider =
      some (startLink ++ escape (asciiText (quote (signInSafeReturnTo (signInValue queryString))))) := by
    unfold signInPage signInReturnTo
    rw [signInSafeReturnTo_again]
    exact if_pos hosted
  refine ⟨_, link, ?_⟩
  rw [linkQuery_start]
  exact followed_iff _

theorem return_to_exact_workspace :
    ("hosted" = "hosted" ∨ "hosted" = "authenticated") ∧
    ∃ href, (signInPage "hosted" (signInReturnTo
        (encodeUtf8 "return_to=%2Fworkspace%2Fart_123".toList))).authProvider = some href ∧
      authReturnTo (linkQuery href) = ("/workspace/art_123".toList, true) := by
  have followable : Followable (signInValue (encodeUtf8 "return_to=%2Fworkspace%2Fart_123".toList)) :=
    fun _ => ⟨by decide, List.all_eq_true.mp (by decide), by decide⟩
  have data : attributeValue (signInPage "hosted" (signInReturnTo
      (encodeUtf8 "return_to=%2Fworkspace%2Fart_123".toList))).dataReturnTo =
      "/workspace/art_123".toList := by decide
  obtain ⟨href, link, same⟩ := (return_to_exact "hosted"
    (encodeUtf8 "return_to=%2Fworkspace%2Fart_123".toList)).1 (Or.inl rfl)
  refine ⟨Or.inl rfl, href, link, ?_⟩
  rw [same.mpr followable, data]

/-- `/inspect/é` is offered by the sign-in page, and `/auth/start` refuses it. -/
theorem return_to_not_printable :
    ¬ ∀ queryString : Bytes, ∀ href : List Char,
      (signInPage "hosted" (signInReturnTo queryString)).authProvider = some href →
      authReturnTo (linkQuery href) =
        (attributeValue (signInPage "hosted" (signInReturnTo queryString)).dataReturnTo, true) := by
  intro agree
  have link : (signInPage "hosted" (signInReturnTo
      (encodeUtf8 "return_to=/inspect/%C3%A9".toList))).authProvider =
      some "/auth/start?return_to=%2Finspect%2F%C3%A9".toList := by decide
  have refused : (authReturnTo (linkQuery "/auth/start?return_to=%2Finspect%2F%C3%A9".toList)).2 =
      false := by decide
  have taken := agree _ _ link
  rw [taken] at refused
  exact absurd refused (Bool.false_ne_true ∘ Eq.symm)

end FolioLattice.Server
