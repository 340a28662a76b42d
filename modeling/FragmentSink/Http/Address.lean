import FragmentSink.Http.Authority

/-
  Addresses on the web, as they are written and as they are
  shown again.

  White space around an address and line ends in it do not
  count.  A web address has a host; slashes after its scheme
  are passed over.

  Key definitions include:
    * `Address`
    * `Address.ofText?`
    * `Address.text`
-/

namespace FragmentSink

------------------------------------------------------------
-- Addresses
------------------------------------------------------------

/- An address. -/
structure Address where
  scheme : String
  authority : Option Authority
  path : String
  query : Option String
  fragment : Option String
deriving DecidableEq, Repr

namespace Address

/- The written form of an authority behind two slashes. -/
def authorityText (a : Authority) : String :=
  "//" ++ .ofList a.user.text ++ .ofList a.host ++
    (match a.portNumber with
     | some portNumber => ":" ++ toString portNumber
     | none => "")

/- The written form of an address. -/
def text (a : Address) : String :=
  let authority :=
    match a.authority with
    | some authority => authorityText authority
    | none => if a.path.startsWith "//" then "/." else ""
  a.scheme ++ ":" ++ authority ++ a.path ++
    (match a.query with
     | some query => "?" ++ query
     | none => "") ++
    (match a.fragment with
     | some fragment => "#" ++ fragment
     | none => "")

/- Whether an address has a host. -/
def hasHost (a : Address) : Bool :=
  a.authority.any fun authority => !authority.host.isEmpty

/- Whether an address is one of the web that can be asked. -/
def isWeb (a : Address) : Bool :=
  a.scheme = "http" || a.scheme = "https"

/- An address without a user who can be told to the server in other words. -/
def withoutUser (a : Address) : Address :=
  { a with
    authority :=
      a.authority.map fun authority =>
        if authority.user.canBeTold then
          { authority with user := .nobody }
        else authority }

------------------------------------------------------------
-- Queries and Fragments
------------------------------------------------------------

/- Encoded in a query; an apostrophe only where a scheme has its own rules. -/
def isSpecialInQuery (k : SchemeKind) (c : Char) : Bool :=
  Percent.isControl c || [' ', '"', '#', '<', '>'].contains c ||
    (k ≠ .plain && c = '\'')

/- The query and the fragment of an address, as they are shown. -/
structure Tail where
  query : Option String
  fragment : Option String

/- The part before a query or fragment, the query and the fragment. -/
def cutTail (k : SchemeKind) (cs : List Char) : List Char × Tail :=
  let (front, fragment) :=
    match Parts.cutAt? '#' cs with
    | some (front, fragment) => (front, some fragment)
    | none => (cs, none)
  let fragment :=
    fragment.map fun f =>
      String.ofList (Percent.encode isSpecialInFragment f)
  match Parts.cutAt? '?' front with
  | some (front, query) =>
      let query :=
        String.ofList (Percent.encode (isSpecialInQuery k) query)
      (front, ⟨some query, fragment⟩)
  | none => (front, ⟨none, fragment⟩)

/- An address of its parts. -/
def ofParts
    (scheme : String)
    (authority : Option Authority)
    (path : List Char)
    (tail : Tail) : Address :=
  { scheme, authority
    path := .ofList path
    query := tail.query
    fragment := tail.fragment }

------------------------------------------------------------
-- Reading
------------------------------------------------------------

/- Drop what does not count: blanks and controls at the ends, tabs and line ends. -/
def cleaned (s : String) : List Char :=
  (Parts.trim (fun c => c.toNat ≤ 0x20) s.toList).filter fun c =>
    c ≠ '\t' ∧ c ≠ '\n' ∧ c ≠ '\r'

/- A text without one slash at its front. -/
def withoutSlash (k : SchemeKind) (cs : List Char) : List Char :=
  match cs with
  | c :: rest => if k.isSlash c then rest else cs
  | [] => []

/- The path behind an authority; where the scheme has rules it has a slash in front. -/
def pathOf (k : SchemeKind) (cs : List Char) : AddressPath :=
  if k = .plain ∧ (cs.isEmpty ∨ cs.head? = some '/') then
    .read k false [] cs
  else .read k (k = .file) ['/'] (withoutSlash k cs)

/- An address of the web, after its scheme. -/
def readWeb?
    (scheme : String)
    (rest : List Char) : Option Address :=
  let rest := rest.dropWhile SchemeKind.web.isSlash
  (Authority.cut? .web scheme rest).map fun (authority, rest) =>
    let (path, tail) := cutTail .web rest
    ofParts scheme (some authority) (pathOf .web path).chars tail

/-
  The host of a local file and the path behind it; a drive is
  no host, and neither is this machine.
-/
def cutFileHost?
    (cs : List Char) : Option (List Char × AddressPath) :=
  let (written, path) := cs.span fun c => !SchemeKind.file.isSlash c
  if PathSegment.isDrive written then
    some ([], .read .file true ['/'] cs)
  else
    let host? :=
      if written.isEmpty then some [] else Host.ofText? written
    host?.map fun host =>
      if host.isEmpty ∨ host = "localhost".toList then
        ([], .read .file false [] path)
      else
        let p := pathOf .file path
        (if p.hasDrive then [] else host, p)

/- An address of a local file, after its scheme. -/
def readFile? (rest : List Char) : Option Address :=
  let (front, tail) := cutTail .file rest
  let found : Option (List Char × AddressPath) :=
    match front with
    | a :: b :: more =>
        if SchemeKind.file.isSlash a && SchemeKind.file.isSlash b then
          cutFileHost? more
        else some ([], pathOf .file front)
    | _ => some ([], pathOf .file front)
  found.map fun (host, path) =>
    let path := '/' :: path.chars.dropWhile (· = '/')
    ofParts "file" (some ⟨.nobody, host, none⟩) path tail

/- Any other address, after its scheme. -/
def readPlain?
    (scheme : String)
    (rest : List Char) : Option Address :=
  match rest with
  | '/' :: '/' :: rest =>
      (Authority.cut? .plain scheme rest).map fun (authority, rest) =>
        let (path, tail) := cutTail .plain rest
        ofParts scheme (some authority) (pathOf .plain path).chars tail
  | _ =>
      let (front, tail) := cutTail .plain rest
      let path :=
        if front.head? = some '/' then (pathOf .plain front).chars
        else Percent.encode Percent.isControl front
      some (ofParts scheme none path tail)

/- Read an address. -/
def ofText? (s : String) : Option Address :=
  (Scheme.cut? (cleaned s)).bind fun (scheme, rest) =>
    match Scheme.kindOf scheme with
    | .web => readWeb? scheme rest
    | .file => readFile? rest
    | .plain => readPlain? scheme rest

end Address

end FragmentSink
