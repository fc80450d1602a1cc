import Mathlib.Data.List.DropRight
import Mathlib.Data.List.Infix
import Mathlib.Data.List.TakeWhile
import Mathlib.Logic.Function.Basic

/-!
# Tenants in the object store

`S3ArtifactStore` puts the tenant id into the key and the URI of an object, and reads it back
with `urlsplit`, `lstrip` and a comparison of prefixes. A bucket is a map from keys to bytes;
texts are lists of characters.
-/

namespace ProductionOptimizer.S3
set_option autoImplicit false

abbrev Text := List Char

abbrev Bytes := List UInt8

/-- `sha256(...).hexdigest()`. -/
structure HexDigest where
  digits : Text
  length : digits.length = 64
  hex : ∀ c ∈ digits, c ∈ "0123456789abcdef".toList

/-- The names that the client accepts for a bucket. -/
structure BucketName where
  name : Text
  nonempty : name ≠ []
  chars : ∀ c ∈ name, c.isAlphanum ∨ c = '.' ∨ c = '-' ∨ c = '_'

/-! ### Texts -/

/-- `str.isspace` of a character. -/
def isSpace (c : Char) : Bool :=
  let n := c.toNat
  (9 ≤ n && n ≤ 13) || (28 ≤ n && n ≤ 32) || n == 0x85 || n == 0xa0 || n == 0x1680 ||
    (0x2000 ≤ n && n ≤ 0x200a) || n == 0x2028 || n == 0x2029 || n == 0x202f || n == 0x205f ||
    n == 0x3000

/-- `not text.strip()`. -/
def isBlank (text : Text) : Bool := text.all isSpace

/-- What a contract strips: the separators 28 to 31 stay. -/
def isTrimmed (c : Char) : Bool := isSpace c && !(28 ≤ c.toNat && c.toNat ≤ 31)

def trim (text : Text) : Text := (text.dropWhile isTrimmed).rdropWhile isTrimmed

/-- How `urlsplit` reads a URL: by RFC 3986 alone, or as Python does, which removes tabs and
line ends first. -/
inductive UrlDialect where
  | rfc3986
  | python
  deriving DecidableEq, Repr

def UrlDialect.removes : UrlDialect → Char → Bool
  | .rfc3986, _ => false
  | .python, c => c == '\t' || c == '\n' || c == '\r'

structure SplitResult where
  scheme : Text
  netloc : Text
  path : Text
  deriving DecidableEq, Repr

def endsNetloc (c : Char) : Bool := c == '/' || c == '?' || c == '#'

def endsPath (c : Char) : Bool := c == '?' || c == '#'

def splitScheme (url : Text) : Text × Text :=
  let scheme := url.takeWhile fun c => !(c == ':' || endsNetloc c)
  match url.drop scheme.length with
  | ':' :: rest => if scheme = [] then ([], url) else (scheme, rest)
  | _ => ([], url)

def splitNetloc (url : Text) : Text × Text :=
  match url with
  | '/' :: '/' :: rest => (rest.takeWhile (!endsNetloc ·), rest.dropWhile (!endsNetloc ·))
  | _ => ([], url)

/-- `urlsplit`, without the query and the fragment. -/
def urlsplit (dialect : UrlDialect) (url : Text) : SplitResult :=
  let (scheme, rest) := splitScheme (url.filter (!dialect.removes ·))
  let (netloc, rest) := splitNetloc rest
  ⟨scheme, netloc, rest.takeWhile (!endsPath ·)⟩

/-! ### The store -/

abbrev Bucket := Text → Option Bytes

structure ArtifactRef where
  artifactType : Text
  schemaVersion : Text
  artifactId : Text
  contentDigest : Text
  uri : Text
  deriving DecidableEq, Repr

inductive StoreFailure where
  | emptyIdempotencyKey
  | emptyMediaType
  | emptyTenantId
  | invalidRef
  | unsupportedScheme
  | malformedUri
  | otherBucket
  | otherTenant
  | noSuchKey
  deriving DecidableEq, Repr

def digestPrefix : Text := "sha256:".toList

/-- `content_digest.removeprefix("sha256:")`. -/
def removeDigestPrefix (contentDigest : Text) : Text :=
  if digestPrefix.isPrefixOf contentDigest then contentDigest.drop digestPrefix.length
  else contentDigest

def objectKey (tenantId contentDigest : Text) : Text :=
  tenantId ++ '/' :: removeDigestPrefix contentDigest

def uriOf (bucket : BucketName) (key : Text) : Text :=
  "s3://".toList ++ bucket.name ++ '/' :: key

/-- The bounds that `ArtifactRef` sets to what the store puts into it. -/
def validRef (ref : ArtifactRef) : Bool :=
  (1 ≤ ref.artifactId.length && ref.artifactId.length ≤ 100) &&
    (1 ≤ ref.uri.length && ref.uri.length ≤ 2048) &&
    (digestPrefix.isPrefixOf ref.contentDigest &&
      (ref.contentDigest.drop digestPrefix.length).length == 64 &&
      (ref.contentDigest.drop digestPrefix.length).all ("0123456789abcdef".toList.contains ·))

/-- `put_json` and `put_blob` from the key on. The object is written before the ref is
checked, and only where there is none. -/
def putObject (bucketName : BucketName) (artifactType tenantId : Text) (content : Bytes)
    (contentDigest : Text) (bucket : Bucket) : Except StoreFailure ArtifactRef × Bucket :=
  if isBlank tenantId then (.error .emptyTenantId, bucket)
  else
    let key := objectKey tenantId contentDigest
    let bucket' :=
      if (bucket key).isSome then bucket else Function.update bucket key (some content)
    let ref : ArtifactRef := ⟨artifactType, "1.0".toList, trim key, trim contentDigest,
      trim (uriOf bucketName key)⟩
    (if validRef ref then .ok ref else .error .invalidRef, bucket')

def putJson (bucketName : BucketName) (idempotencyKey tenantId : Text) (content : Bytes)
    (contentDigest : Text) (bucket : Bucket) : Except StoreFailure ArtifactRef × Bucket :=
  if isBlank idempotencyKey then (.error .emptyIdempotencyKey, bucket)
  else putObject bucketName "JsonArtifact".toList tenantId content contentDigest bucket

def putBlob (bucketName : BucketName) (mediaType tenantId : Text) (content : Bytes)
    (contentDigest : Text) (bucket : Bucket) : Except StoreFailure ArtifactRef × Bucket :=
  if isBlank mediaType then (.error .emptyMediaType, bucket)
  else putObject bucketName "Blob".toList tenantId content contentDigest bucket

def parseUri (dialect : UrlDialect) (uri : Text) : Except StoreFailure (Text × Text) :=
  let parsed := urlsplit dialect uri
  if parsed.scheme ≠ "s3".toList then .error .unsupportedScheme
  else
    let key := parsed.path.dropWhile (· == '/')
    if parsed.netloc = [] ∨ key = [] then .error .malformedUri else .ok (parsed.netloc, key)

def read (dialect : UrlDialect) (bucketName : BucketName) (tenantId : Text) (ref : ArtifactRef)
    (bucket : Bucket) : Except StoreFailure Bytes := do
  let (name, key) ← parseUri dialect ref.uri
  if name ≠ bucketName.name then .error .otherBucket
  else if !(tenantId ++ ['/']).isPrefixOf key then .error .otherTenant
  else
    match bucket key with
    | none => .error .noSuchKey
    | some content => .ok content

/-- `sha256:` with the digits. -/
def digestText (digest : HexDigest) : Text := digestPrefix ++ digest.digits

def verify (dialect : UrlDialect) (sha256 : Bytes → HexDigest) (bucketName : BucketName)
    (tenantId : Text) (ref : ArtifactRef) (bucket : Bucket) : Bool :=
  match read dialect bucketName tenantId ref bucket with
  | .error _ => false
  | .ok content => digestText (sha256 content) == ref.contentDigest

/-! ### What a URI is parsed to -/

section Parsing
variable (dialect : UrlDialect) (bucketName : BucketName)

/-- The key that `_parse_uri` finds in the URI of a key. -/
def parsedKey (dialect : UrlDialect) (key : Text) : Text :=
  ((key.filter (!dialect.removes ·)).takeWhile (!endsPath ·)).dropWhile (· == '/')

theorem nameChar {c : Char} (h : c.isAlphanum ∨ c = '.' ∨ c = '-' ∨ c = '_') :
    dialect.removes c = false ∧ endsNetloc c = false := by
  have hne : c ≠ '\t' ∧ c ≠ '\n' ∧ c ≠ '\r' ∧ c ≠ '/' ∧ c ≠ '?' ∧ c ≠ '#' := by
    refine ⟨?_, ?_, ?_, ?_, ?_, ?_⟩ <;>
      · rintro rfl
        revert h
        decide
  obtain ⟨htab, hline, hreturn, hslash, hquery, hhash⟩ := hne
  constructor
  · cases dialect <;> simp [UrlDialect.removes, htab, hline, hreturn]
  · simp [endsNetloc, hslash, hquery, hhash]

theorem filter_uriOf (key : Text) :
    (uriOf bucketName key).filter (!dialect.removes ·) =
      uriOf bucketName (key.filter (!dialect.removes ·)) := by
  have hname : bucketName.name.filter (!dialect.removes ·) = bucketName.name := by
    apply List.filter_eq_self.mpr
    intro c hc
    rw [(nameChar dialect (bucketName.chars c hc)).1]
    rfl
  unfold uriOf
  rw [List.filter_append, List.filter_append, hname]
  cases dialect <;> rfl

theorem splitScheme_uriOf (key : Text) :
    splitScheme (uriOf bucketName key) =
      ("s3".toList, '/' :: '/' :: (bucketName.name ++ '/' :: key)) := by
  rfl

theorem splitNetloc_name (key : Text) :
    splitNetloc ('/' :: '/' :: (bucketName.name ++ '/' :: key)) =
      (bucketName.name, '/' :: key) := by
  have hname : ∀ c ∈ bucketName.name, (!endsNetloc c) = true := by
    intro c hc
    rw [(nameChar .rfc3986 (bucketName.chars c hc)).2]
    rfl
  change (List.takeWhile (!endsNetloc ·) (bucketName.name ++ '/' :: key),
    List.dropWhile (!endsNetloc ·) (bucketName.name ++ '/' :: key)) = _
  rw [List.takeWhile_append_of_pos hname, List.dropWhile_append_of_pos hname]
  simp [endsNetloc]

theorem urlsplit_uriOf (key : Text) :
    urlsplit dialect (uriOf bucketName key) =
      ⟨"s3".toList, bucketName.name,
        '/' :: (key.filter (!dialect.removes ·)).takeWhile (!endsPath ·)⟩ := by
  unfold urlsplit
  rw [filter_uriOf, splitScheme_uriOf]
  dsimp only
  rw [splitNetloc_name]
  rfl

theorem parseUri_uriOf (key : Text) :
    parseUri dialect (uriOf bucketName key) =
      if parsedKey dialect key = [] then .error .malformedUri
      else .ok (bucketName.name, parsedKey dialect key) := by
  have hpath : ('/' :: (key.filter (!dialect.removes ·)).takeWhile (!endsPath ·)).dropWhile
      (· == '/') = parsedKey dialect key := List.dropWhile_cons_of_pos rfl
  unfold parseUri
  rw [urlsplit_uriOf]
  dsimp only
  rw [if_neg (not_not_intro rfl), hpath]
  simp only [bucketName.nonempty, false_or]

end Parsing

/-! ### Keys and tenants -/

/-- A tenant id that comes back from a URI as it went in. -/
def Clean (dialect : UrlDialect) (tenantId : Text) : Prop :=
  (∀ c ∈ tenantId, endsPath c = false ∧ dialect.removes c = false) ∧ tenantId.head? ≠ some '/'

/-- A property of all characters of a text is checked along the text. -/
theorem forall_mem_of_all {p : Char → Prop} [DecidablePred p] {text : Text}
    (h : text.all (fun c => decide (p c)) = true) : ∀ c ∈ text, p c := by
  intro c hc
  exact of_decide_eq_true (List.all_eq_true.mp h c hc)

theorem hexChar (dialect : UrlDialect) : ∀ c ∈ "0123456789abcdef".toList,
    endsPath c = false ∧ dialect.removes c = false ∧ c ≠ '/' ∧ isTrimmed c = false := by
  apply forall_mem_of_all
  cases dialect <;> decide

theorem HexDigest.slash_not_mem (digest : HexDigest) : '/' ∉ digest.digits :=
  fun h => (hexChar .rfc3986 '/' (digest.hex '/' h)).2.2.1 rfl

section Keys
variable {dialect : UrlDialect} {s t : Text} {digest : HexDigest}

theorem objectKey_digestText (t : Text) (digest : HexDigest) :
    objectKey t (digestText digest) = t ++ '/' :: digest.digits := by
  unfold objectKey removeDigestPrefix digestText
  rw [if_pos (List.isPrefixOf_iff_prefix.mpr (List.prefix_append _ _)), List.drop_left]

theorem parsedKey_of_clean (h : Clean dialect t) (hne : t ≠ []) :
    parsedKey dialect (t ++ '/' :: digest.digits) = t ++ '/' :: digest.digits := by
  have hall : ∀ c ∈ t ++ '/' :: digest.digits, endsPath c = false ∧ dialect.removes c = false := by
    intro c hc
    rcases List.mem_append.mp hc with hc | hc
    · exact h.1 c hc
    rcases List.mem_cons.mp hc with rfl | hc
    · cases dialect <;> decide
    · exact ⟨(hexChar dialect c (digest.hex c hc)).1, (hexChar dialect c (digest.hex c hc)).2.1⟩
  have hfilter : (t ++ '/' :: digest.digits).filter (!dialect.removes ·) =
      t ++ '/' :: digest.digits :=
    List.filter_eq_self.mpr fun c hc => by simp [(hall c hc).2]
  have htake : (t ++ '/' :: digest.digits).takeWhile (!endsPath ·) = t ++ '/' :: digest.digits :=
    List.takeWhile_eq_self_iff.mpr fun c hc => by simp [(hall c hc).1]
  unfold parsedKey
  rw [hfilter, htake]
  cases t with
  | nil => exact absurd rfl hne
  | cons c t =>
    have hslash : c ≠ '/' := fun heq => h.2 (by rw [heq]; rfl)
    rw [List.cons_append, List.dropWhile_cons_of_neg]
    simpa using hslash

/-- Otherwise the key that is found does not even begin with the tenant. -/
theorem not_prefix_parsedKey (h : ¬ Clean dialect t) (key : Text) :
    ¬ t ++ ['/'] <+: parsedKey dialect key := by
  intro hstarts
  apply h
  constructor
  · intro c hc
    have hmem : c ∈ parsedKey dialect key :=
      hstarts.subset (List.mem_append_left _ hc)
    have htaken := (List.dropWhile_suffix _).subset hmem
    have hkept := (List.takeWhile_prefix _).subset htaken
    have hends := List.mem_takeWhile_imp htaken
    have hremoves := (List.mem_filter.mp hkept).2
    exact ⟨by simpa using hends, by simpa using hremoves⟩
  · intro hhead
    cases t with
    | nil => cases hhead
    | cons c t =>
      cases hhead
      obtain ⟨rest, hrest⟩ := hstarts
      have hdrop : parsedKey dialect key = '/' :: (t ++ ['/'] ++ rest) := hrest.symm
      unfold parsedKey at hdrop
      have hnot := List.head?_dropWhile_not (· == '/')
        ((key.filter (!dialect.removes ·)).takeWhile (!endsPath ·))
      rw [hdrop] at hnot
      simp at hnot

/-- A tenant reads the keys of those whose id goes on after it with a slash. -/
theorem prefix_key_iff :
    s ++ ['/'] <+: t ++ '/' :: digest.digits ↔ s = t ∨ s ++ ['/'] <+: t := by
  have hkey : t ++ '/' :: digest.digits = t ++ ['/'] ++ digest.digits := by simp
  constructor
  · intro h
    rcases Nat.lt_or_ge t.length (s ++ ['/']).length with hlong | hshort
    · left
      rw [hkey] at h
      have hle : (t ++ ['/']).length ≤ (s ++ ['/']).length := by
        simp only [List.length_append, List.length_singleton] at hlong ⊢
        omega
      obtain ⟨rest, hrest⟩ :=
        List.prefix_of_prefix_length_le (List.prefix_append (t ++ ['/']) digest.digits) h hle
      rw [← hrest, List.prefix_append_right_inj] at h
      rcases List.eq_nil_or_concat rest with rfl | ⟨init, c, rfl⟩
      · rw [List.append_nil] at hrest
        exact (List.append_inj' hrest rfl).1.symm
      · -- a longer id would put its slash among the digits
        rw [List.concat_eq_append] at h hrest
        rw [← List.append_assoc] at hrest
        cases (List.append_inj' hrest rfl).2
        exact absurd (h.subset (by simp)) digest.slash_not_mem
    · right
      exact List.prefix_of_prefix_length_le h (List.prefix_append t _) hshort
  · rintro (rfl | h)
    · rw [hkey]
      exact List.prefix_append _ _
    · exact h.trans (List.prefix_append _ _)

theorem key_injective {s t : Text} {digest digest' : HexDigest}
    (h : s ++ '/' :: digest.digits = t ++ '/' :: digest'.digits) :
    s = t ∧ digest = digest' := by
  have hlength : ('/' :: digest.digits).length = ('/' :: digest'.digits).length := by
    rw [List.length_cons, List.length_cons, digest.length, digest'.length]
  obtain ⟨hst, hdigits⟩ := List.append_inj' h hlength
  refine ⟨hst, ?_⟩
  cases digest
  cases digest'
  cases hdigits
  rfl

end Keys

/-! ### Histories of puts -/

section Store
variable (dialect : UrlDialect) (sha256 : Bytes → HexDigest) (bucketName : BucketName)

/-- A put of one of the two kinds, with the digest of its content. -/
inductive Put where
  | json (idempotencyKey tenantId : Text) (content : Bytes)
  | blob (mediaType tenantId : Text) (content : Bytes)

namespace Put

def tenantId : Put → Text
  | .json _ tenantId _ => tenantId
  | .blob _ tenantId _ => tenantId

def content : Put → Bytes
  | .json _ _ content => content
  | .blob _ _ content => content

def run (put : Put) (bucket : Bucket) : Except StoreFailure ArtifactRef × Bucket :=
  match put with
  | .json idempotencyKey tenantId content =>
    putJson bucketName idempotencyKey tenantId content (digestText (sha256 content)) bucket
  | .blob mediaType tenantId content =>
    putBlob bucketName mediaType tenantId content (digestText (sha256 content)) bucket

/-- The text that is checked first. -/
def label : Put → Text
  | .json idempotencyKey _ _ => idempotencyKey
  | .blob mediaType _ _ => mediaType

def artifactType : Put → Text
  | .json _ _ _ => "JsonArtifact".toList
  | .blob _ _ _ => "Blob".toList

/-- The key that the object of a put has. -/
def key (put : Put) : Text := put.tenantId ++ '/' :: (sha256 put.content).digits

end Put

/-- The bucket after a list of puts, whoever makes them; those that raise included. -/
def afterPuts (puts : List Put) : Bucket :=
  puts.foldl (fun bucket put => (put.run sha256 bucketName bucket).2) fun _ => none

/-- No two different contents of the puts have one digest. -/
def CollisionFree (puts : List Put) : Prop :=
  ∀ put ∈ puts, ∀ put' ∈ puts, sha256 put.content = sha256 put'.content →
    put.content = put'.content

/-- The put returns the ref, after others or none. -/
def Returns (put : Put) (ref : ArtifactRef) : Prop :=
  ∃ bucket, (put.run sha256 bucketName bucket).1 = .ok ref

/-- A tenant id that the puts accept. -/
def Admitted (tenantId : Text) : Prop :=
  ∃ put ref, put.tenantId = tenantId ∧ Returns sha256 bucketName put ref

/-- The laws for a reader `s` and an owner `t`: what `t` has put is read back by `t`, not by
`s`, and later puts of `s` do not change what `t` reads. -/
structure TenantLaws (s t : Text) : Prop where
  roundTrip : ∀ puts put later ref, put.tenantId = t →
    CollisionFree sha256 (puts ++ put :: later) → Returns sha256 bucketName put ref →
    read dialect bucketName t ref (afterPuts sha256 bucketName (puts ++ put :: later)) =
      .ok put.content ∧
    verify dialect sha256 bucketName t ref
      (afterPuts sha256 bucketName (puts ++ put :: later)) = true
  isolated : s ≠ t → ∀ puts put later ref, put.tenantId = t → Returns sha256 bucketName put ref →
    ∃ e, read dialect bucketName s ref
      (afterPuts sha256 bucketName (puts ++ put :: later)) = .error e
  undisturbed : ∀ puts put later other ref, put.tenantId = t → other.tenantId = s →
    Returns sha256 bucketName put ref →
    read dialect bucketName t ref
        (afterPuts sha256 bucketName (puts ++ put :: later ++ [other])) =
      read dialect bucketName t ref (afterPuts sha256 bucketName (puts ++ put :: later))

variable {sha256 bucketName} {put : Put} {puts : List Put} {ref : ArtifactRef} {bucket : Bucket}

/-- Nothing is trimmed off a text that starts with a visible character and ends in a digest. -/
theorem trim_eq_self {front : Text} {digest : HexDigest}
    (hfront : ∃ c rest, front = c :: rest ∧ isTrimmed c = false) :
    trim (front ++ digest.digits) = front ++ digest.digits := by
  obtain ⟨c, rest, rfl, hc⟩ := hfront
  have hne : digest.digits ≠ [] := by
    intro h
    have hlength := digest.length
    rw [h] at hlength
    cases hlength
  unfold trim
  rw [List.cons_append, List.dropWhile_cons_of_neg (by simp [hc]), List.rdropWhile_eq_self_iff]
  intro hcons htrimmed
  have hlast : (c :: (rest ++ digest.digits)).getLast hcons ∈ digest.digits := by
    change (c :: rest ++ digest.digits).getLast hcons ∈ digest.digits
    rw [List.getLast_append_of_ne_nil hcons hne]
    exact List.getLast_mem hne
  rw [(hexChar .rfc3986 _ (digest.hex _ hlast)).2.2.2] at htrimmed
  cases htrimmed

theorem append_key (front t digits : Text) :
    front ++ '/' :: (t ++ '/' :: digits) = front ++ '/' :: t ++ ['/'] ++ digits := by
  simp

theorem uriOf_key (put : Put) :
    trim (uriOf bucketName (put.key sha256)) = uriOf bucketName (put.key sha256) := by
  unfold uriOf Put.key
  rw [append_key]
  exact trim_eq_self ⟨'s', _, rfl, by decide⟩

theorem trim_digestText (digest : HexDigest) : trim (digestText digest) = digestText digest :=
  trim_eq_self ⟨'s', _, rfl, by decide⟩

/-- Neither of the two texts that a put checks is blank. -/
def Put.Passes (put : Put) : Prop := isBlank put.label = false ∧ isBlank put.tenantId = false

def Put.issued (sha256 : Bytes → HexDigest) (bucketName : BucketName) (put : Put) : ArtifactRef :=
  ⟨put.artifactType, "1.0".toList, trim (put.key sha256), digestText (sha256 put.content),
    uriOf bucketName (put.key sha256)⟩

theorem run_of_passes (h : put.Passes) (bucket : Bucket) :
    put.run sha256 bucketName bucket =
      (if validRef (put.issued sha256 bucketName) then .ok (put.issued sha256 bucketName)
        else .error .invalidRef,
      if (bucket (put.key sha256)).isSome then bucket
      else Function.update bucket (put.key sha256) (some put.content)) := by
  have hobject : putObject bucketName put.artifactType put.tenantId put.content
      (digestText (sha256 put.content)) bucket =
        (if validRef (put.issued sha256 bucketName) then .ok (put.issued sha256 bucketName)
          else .error .invalidRef,
        if (bucket (put.key sha256)).isSome then bucket
        else Function.update bucket (put.key sha256) (some put.content)) := by
    have hkey : objectKey put.tenantId (digestText (sha256 put.content)) = put.key sha256 :=
      objectKey_digestText _ _
    unfold putObject
    rw [if_neg (by simp [h.2])]
    simp only [hkey, uriOf_key, trim_digestText]
    rfl
  cases put with
  | json idempotencyKey tenantId content =>
    have hlabel : ¬ isBlank idempotencyKey = true := Bool.eq_false_iff.mp h.1
    exact (if_neg hlabel).trans hobject
  | blob mediaType tenantId content =>
    have hlabel : ¬ isBlank mediaType = true := Bool.eq_false_iff.mp h.1
    exact (if_neg hlabel).trans hobject

variable (sha256 bucketName) in
/-- A put that fails its checks changes nothing. -/
theorem run_of_not_passes (h : ¬ put.Passes) (bucket : Bucket) :
    ∃ e, put.run sha256 bucketName bucket = (.error e, bucket) := by
  cases put with
  | json idempotencyKey tenantId content =>
    by_cases hlabel : isBlank idempotencyKey
    · exact ⟨.emptyIdempotencyKey, if_pos hlabel⟩
    · have htenant : isBlank tenantId = true := by
        by_contra hno
        exact h ⟨Bool.eq_false_iff.mpr hlabel, Bool.eq_false_iff.mpr hno⟩
      exact ⟨.emptyTenantId, (if_neg hlabel).trans (if_pos htenant)⟩
  | blob mediaType tenantId content =>
    by_cases hlabel : isBlank mediaType
    · exact ⟨.emptyMediaType, if_pos hlabel⟩
    · have htenant : isBlank tenantId = true := by
        by_contra hno
        exact h ⟨Bool.eq_false_iff.mpr hlabel, Bool.eq_false_iff.mpr hno⟩
      exact ⟨.emptyTenantId, (if_neg hlabel).trans (if_pos htenant)⟩

theorem of_returns (h : Returns sha256 bucketName put ref) :
    put.Passes ∧ ref = put.issued sha256 bucketName := by
  obtain ⟨bucket, hrun⟩ := h
  by_cases hpasses : put.Passes
  · rw [run_of_passes hpasses] at hrun
    dsimp only at hrun
    split at hrun
    · exact ⟨hpasses, (Except.ok.inj hrun).symm⟩
    · cases hrun
  · obtain ⟨e, he⟩ := run_of_not_passes sha256 bucketName hpasses bucket
    rw [he] at hrun
    cases hrun

variable (sha256 bucketName) in
/-- A put writes its own key at most, and only where nothing is. -/
theorem run_cases (put : Put) (bucket : Bucket) :
    (put.run sha256 bucketName bucket).2 = bucket ∨
      (bucket (put.key sha256) = none ∧ (put.run sha256 bucketName bucket).2 =
        Function.update bucket (put.key sha256) (some put.content)) := by
  by_cases hpasses : put.Passes
  · rw [run_of_passes hpasses]
    dsimp only
    split
    · exact .inl rfl
    · rename_i hnone
      exact .inr ⟨by simpa using hnone, rfl⟩
  · obtain ⟨e, he⟩ := run_of_not_passes sha256 bucketName hpasses bucket
    rw [he]
    exact .inl rfl

theorem afterPuts_concat (puts : List Put) (put : Put) :
    afterPuts sha256 bucketName (puts ++ [put]) =
      (put.run sha256 bucketName (afterPuts sha256 bucketName puts)).2 := by
  unfold afterPuts
  rw [List.foldl_append]
  rfl

/-- Later puts leave an object as it is. -/
theorem afterPuts_append_of_some {key : Text} {content : Bytes} (later : List Put)
    (h : afterPuts sha256 bucketName puts key = some content) :
    afterPuts sha256 bucketName (puts ++ later) key = some content := by
  induction later using List.reverseRecOn with
  | nil =>
    rw [List.append_nil]
    exact h
  | append_singleton later put ih =>
    rw [← List.append_assoc, afterPuts_concat]
    rcases run_cases sha256 bucketName put
      (afterPuts sha256 bucketName (puts ++ later)) with heq | ⟨hnone, heq⟩
    · rw [heq]
      exact ih
    · have hne : key ≠ put.key sha256 := by
        rintro rfl
        cases hnone.symm.trans ih
      rw [heq, Function.update_of_ne hne]
      exact ih

/-- Every object comes from a put of its key and its content. -/
theorem exists_put_of_some {key : Text} {content : Bytes}
    (h : afterPuts sha256 bucketName puts key = some content) :
    ∃ put ∈ puts, key = put.key sha256 ∧ content = put.content := by
  induction puts using List.reverseRecOn with
  | nil => cases h
  | append_singleton puts put ih =>
    rw [afterPuts_concat] at h
    rcases run_cases sha256 bucketName put
      (afterPuts sha256 bucketName puts) with heq | ⟨_, heq⟩
    · rw [heq] at h
      obtain ⟨put', hmem, hput'⟩ := ih h
      exact ⟨put', List.mem_append_left _ hmem, hput'⟩
    · rw [heq] at h
      by_cases hkey : key = put.key sha256
      · subst hkey
        rw [Function.update_self] at h
        cases h
        exact ⟨put, List.mem_append_right _ (List.mem_singleton_self put), rfl, rfl⟩
      · rw [Function.update_of_ne hkey] at h
        obtain ⟨put', hmem, hput'⟩ := ih h
        exact ⟨put', List.mem_append_left _ hmem, hput'⟩

variable (sha256 bucketName) in
/-- The object of a put that passed its checks is there from then on. -/
theorem isSome_afterPuts (hpasses : put.Passes) (puts later : List Put) :
    (afterPuts sha256 bucketName (puts ++ put :: later) (put.key sha256)).isSome := by
  have hput : (afterPuts sha256 bucketName (puts ++ [put]) (put.key sha256)).isSome := by
    rw [afterPuts_concat, run_of_passes hpasses]
    dsimp only
    split
    · assumption
    · rw [Function.update_self]
      rfl
  obtain ⟨content, hcontent⟩ := Option.isSome_iff_exists.mp hput
  have hkept := afterPuts_append_of_some later hcontent
  rw [List.append_assoc, List.singleton_append] at hkept
  rw [hkept]
  rfl

/-- Without collisions it is the content of the put. -/
theorem afterPuts_key (hpasses : put.Passes) {later : List Put}
    (hfree : CollisionFree sha256 (puts ++ put :: later)) :
    afterPuts sha256 bucketName (puts ++ put :: later) (put.key sha256) = some put.content := by
  obtain ⟨content, hcontent⟩ := Option.isSome_iff_exists.mp
    (isSome_afterPuts sha256 bucketName hpasses puts later)
  obtain ⟨put', hmem, hkey, rfl⟩ := exists_put_of_some hcontent
  have hput : put ∈ puts ++ put :: later := List.mem_append_right _ List.mem_cons_self
  rw [hcontent, hfree put hput put' hmem (key_injective hkey).2]

/-- Reading by a ref that a put returned. -/
theorem read_issued (s : Text) (put : Put) (bucket : Bucket) :
    read dialect bucketName s (put.issued sha256 bucketName) bucket =
      if parsedKey dialect (put.key sha256) = [] then .error .malformedUri
      else if ¬ s ++ ['/'] <+: parsedKey dialect (put.key sha256) then .error .otherTenant
      else
        match bucket (parsedKey dialect (put.key sha256)) with
        | none => .error .noSuchKey
        | some content => .ok content := by
  unfold read
  have huri : (put.issued sha256 bucketName).uri = uriOf bucketName (put.key sha256) := rfl
  rw [huri, parseUri_uriOf]
  split
  · rfl
  · by_cases hstarts : s ++ ['/'] <+: parsedKey dialect (put.key sha256)
    · have htest := List.isPrefixOf_iff_prefix.mpr hstarts
      simp [bind, Except.bind, hstarts, htest]
    · have htest := Bool.eq_false_iff.mpr (mt List.isPrefixOf_iff_prefix.mp hstarts)
      simp [bind, Except.bind, hstarts, htest]

variable {dialect}

/-- Who may not read gets an error. -/
theorem read_of_foreign {s : Text} (h : ¬ s ++ ['/'] <+: parsedKey dialect (put.key sha256))
    (bucket : Bucket) :
    read dialect bucketName s (put.issued sha256 bucketName) bucket =
      if parsedKey dialect (put.key sha256) = [] then .error .malformedUri
      else .error .otherTenant := by
  rw [read_issued, if_pos h]

/-- The key of a clean tenant is read as it was written. -/
theorem read_of_clean {s : Text} (hclean : Clean dialect put.tenantId)
    (hne : put.tenantId ≠ []) (hs : s = put.tenantId ∨ s ++ ['/'] <+: put.tenantId)
    (bucket : Bucket) :
    read dialect bucketName s (put.issued sha256 bucketName) bucket =
      match bucket (put.key sha256) with
      | none => .error .noSuchKey
      | some content => .ok content := by
  have hkey : parsedKey dialect (put.key sha256) = put.key sha256 := parsedKey_of_clean hclean hne
  have hnil : put.key sha256 ≠ [] := by simp [Put.key]
  have hstarts : s ++ ['/'] <+: put.key sha256 := prefix_key_iff.mpr hs
  rw [read_issued, hkey, if_neg hnil, if_neg (not_not_intro hstarts)]

theorem ne_nil_of_passes (h : put.Passes) : put.tenantId ≠ [] := by
  intro hnil
  have hblank := h.2
  rw [hnil] at hblank
  cases hblank

/-- An owner whose id is not clean never reads its objects, and a reader whose id is
followed by a slash in the owner's always does. -/
theorem clean_of_laws {s t : Text} (ht : Admitted sha256 bucketName t)
    (h : TenantLaws dialect sha256 bucketName s t) :
    Clean dialect t ∧ ¬ s ++ ['/'] <+: t := by
  obtain ⟨put, ref, rfl, hreturns⟩ := ht
  obtain ⟨hpasses, rfl⟩ := of_returns hreturns
  have hclean : Clean dialect put.tenantId := by
    by_contra hdirty
    have hfree : CollisionFree sha256 ([] ++ [put]) := by
      intro put₁ h₁ put₂ h₂ _
      cases List.mem_singleton.mp h₁
      cases List.mem_singleton.mp h₂
      rfl
    have hread := (h.roundTrip [] put [] _ rfl hfree hreturns).1
    rw [read_of_foreign (not_prefix_parsedKey hdirty _)] at hread
    split at hread <;> cases hread
  refine ⟨hclean, fun hstarts => ?_⟩
  have hne : s ≠ put.tenantId := by
    rintro rfl
    have hlength := hstarts.length_le
    simp only [List.length_append, List.length_singleton] at hlength
    omega
  obtain ⟨e, he⟩ := h.isolated hne [] put [] _ rfl hreturns
  rw [read_of_clean hclean (ne_nil_of_passes hpasses) (.inr hstarts)] at he
  obtain ⟨content, hcontent⟩ := Option.isSome_iff_exists.mp
    (isSome_afterPuts sha256 bucketName hpasses [] [])
  rw [hcontent] at he
  cases he

theorem laws_of_clean {s t : Text} (hclean : Clean dialect t) (hstarts : ¬ s ++ ['/'] <+: t) :
    TenantLaws dialect sha256 bucketName s t where
  roundTrip puts put later ref := by
    rintro rfl hfree hreturns
    obtain ⟨hpasses, rfl⟩ := of_returns hreturns
    have hread : read dialect bucketName put.tenantId (put.issued sha256 bucketName)
        (afterPuts sha256 bucketName (puts ++ put :: later)) = .ok put.content := by
      rw [read_of_clean hclean (ne_nil_of_passes hpasses) (.inl rfl), afterPuts_key hpasses hfree]
    refine ⟨hread, ?_⟩
    unfold verify
    rw [hread]
    exact beq_self_eq_true _
  isolated hne puts put later ref := by
    rintro rfl hreturns
    obtain ⟨hpasses, rfl⟩ := of_returns hreturns
    have hkey : parsedKey dialect (put.key sha256) = put.key sha256 :=
      parsedKey_of_clean hclean (ne_nil_of_passes hpasses)
    have hforeign : ¬ s ++ ['/'] <+: parsedKey dialect (put.key sha256) := by
      rw [hkey]
      intro h
      rcases prefix_key_iff.mp h with heq | h
      · exact hne heq
      · exact hstarts h
    rw [read_of_foreign hforeign]
    split
    · exact ⟨_, rfl⟩
    · exact ⟨_, rfl⟩
  undisturbed puts put later other ref := by
    rintro rfl _ hreturns
    obtain ⟨hpasses, rfl⟩ := of_returns hreturns
    have hne := ne_nil_of_passes hpasses
    obtain ⟨content, hcontent⟩ := Option.isSome_iff_exists.mp
      (isSome_afterPuts sha256 bucketName hpasses puts later)
    rw [read_of_clean hclean hne (.inl rfl), read_of_clean hclean hne (.inl rfl), hcontent,
      afterPuts_append_of_some [other] hcontent]

/-- The laws of a pair of tenants hold exactly if the owner's id survives the URI and does
not continue the reader's after a slash. -/
theorem tenant_laws_iff {s t : Text} (ht : Admitted sha256 bucketName t) :
    TenantLaws dialect sha256 bucketName s t ↔ Clean dialect t ∧ ¬ s ++ ['/'] <+: t :=
  ⟨clean_of_laws ht, fun h => laws_of_clean h.1 h.2⟩

end Store

/-! ### Tenants of a development bucket -/

/-- The digest of no bytes. -/
def emptyDigest : HexDigest where
  digits := "e3b0c44298fc1c149afbf4c8996fb92427ae41e4649b934ca495991b7852b855".toList
  length := by decide
  hex := forall_mem_of_all (by decide)

def zeroDigest : HexDigest where
  digits := List.replicate 64 '0'
  length := by decide
  hex := forall_mem_of_all (by decide)

/-- As SHA-256 on the content that the examples put. -/
def sampleSha256 (content : Bytes) : HexDigest := if content = [] then emptyDigest else zeroDigest

def developmentBucket : BucketName where
  name := "optimizer-development".toList
  nonempty := by decide
  chars := forall_mem_of_all (by decide)

/-- A put of no bytes. -/
def putEmpty (tenantId : Text) : Put := .blob "text/plain".toList tenantId []

theorem admitted_of_validRef {tenantId : Text} (hpasses : (putEmpty tenantId).Passes)
    (hvalid : validRef ((putEmpty tenantId).issued sampleSha256 developmentBucket)) :
    Admitted sampleSha256 developmentBucket tenantId := by
  refine ⟨putEmpty tenantId, (putEmpty tenantId).issued sampleSha256 developmentBucket, rfl,
    fun _ => none, ?_⟩
  rw [run_of_passes hpasses]
  exact if_pos hvalid

theorem admitted_team : Admitted sampleSha256 developmentBucket "acme/team".toList :=
  admitted_of_validRef (by unfold Put.Passes; decide) (by decide)

theorem admitted_acme : Admitted sampleSha256 developmentBucket "acme".toList :=
  admitted_of_validRef (by unfold Put.Passes; decide) (by decide)

/-- The tenant `acme` reads what the tenant `acme/team` has put. -/
theorem acme_reads_team :
    Admitted sampleSha256 developmentBucket "acme".toList ∧
      Admitted sampleSha256 developmentBucket "acme/team".toList ∧
      ¬ TenantLaws .rfc3986 sampleSha256 developmentBucket "acme".toList "acme/team".toList := by
  refine ⟨admitted_acme, admitted_team, fun h => ?_⟩
  exact (clean_of_laws admitted_team h).2 (by decide)

/-- Two plain ids. -/
theorem team_and_acme_laws :
    Admitted sampleSha256 developmentBucket "acme".toList ∧
      TenantLaws .python sampleSha256 developmentBucket "acme/team".toList "acme".toList :=
  ⟨admitted_acme, (tenant_laws_iff admitted_acme).mpr
    ⟨⟨forall_mem_of_all (by decide), by decide⟩, by decide⟩⟩

end ProductionOptimizer.S3
