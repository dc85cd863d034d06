import Erc4337.Text.Quote
/-!
URL parsing after RFC 3986, over the UTF-8 bytes of the text. A URL is a scheme, then either a
rootless (opaque) rest or an optional authority (user information, host and port) followed by a
path, a query and a fragment. Percent escapes are decoded in the user information, the host,
the path and the fragment; in a host they may only stand for bytes outside ASCII (or for `%`
in an IPv6 zone), and a host may hold only the characters a registered name or an IP literal
allows. The first error found, reading from the left, is the one reported.
-/
namespace Erc4337.Url

structure Parsed where
  scheme : List UInt8 := []
  rootless : List UInt8 := []
  user : Option (List UInt8 × Option (List UInt8)) := none
  host : List UInt8 := []
  path : List UInt8 := []
  query : List UInt8 := []
  fragment : List UInt8 := []
  deriving Inhabited

inductive Part where
  | host
  | zone
  | path
  | userPassword
  | fragment
  | queryComponent
  deriving DecidableEq

def bytesOf (s : String) : List UInt8 := s.toUTF8.toList

def isAlphaByte (c : UInt8) : Bool := (97 ≤ c && c ≤ 122) || (65 ≤ c && c ≤ 90)

def isDigitByte (c : UInt8) : Bool := 48 ≤ c && c ≤ 57

def isHexByte (c : UInt8) : Bool := isDigitByte c || (97 ≤ c && c ≤ 102) || (65 ≤ c && c ≤ 70)

def unhex (c : UInt8) : UInt8 :=
  if isDigitByte c then c - 48 else if 97 ≤ c && c ≤ 102 then c - 87 else if 65 ≤ c && c ≤ 70 then c - 55 else 0

def isIn (c : UInt8) (s : String) : Bool := (bytesOf s).contains c

def shouldEscape (c : UInt8) (part : Part) : Bool :=
  if isAlphaByte c || isDigitByte c then false
  else if (part = .host || part = .zone) && isIn c "!$&'()*+,;=:[]<>\"" then false
  else if isIn c "-_.~" then false
  else if isIn c "$&+,/:;=?@" then
    match part with
    | .path => c == 63
    | .userPassword => c == 64 || c == 47 || c == 63 || c == 58
    | .fragment => false
    | _ => true
  else true

def escapeError (s : List UInt8) : String := "invalid URL escape " ++ Quote.quoteBytes s

def unescape (part : Part) : List UInt8 → Except String (List UInt8)
  | [] => .ok []
  | 37 :: rest =>
    match rest with
    | a :: b :: more =>
      if isHexByte a && isHexByte b then
        let v := unhex a * 16 + unhex b
        let percent := a == 50 && b == 53
        if part = .host && unhex a < 8 && !percent then .error (escapeError [37, a, b])
        else if part = .zone && !percent && v != 32 && shouldEscape v .host then .error (escapeError [37, a, b])
        else (v :: ·) <$> unescape part more
      else .error (escapeError (37 :: (rest.take 2)))
    | _ => .error (escapeError (37 :: rest))
  | c :: rest =>
    if (part = .host || part = .zone) && c < 0x80 && shouldEscape c part then
      .error ("invalid character " ++ Quote.quoteBytes [c] ++ " in host name")
    else if part = .queryComponent && c == 43 then (32 :: ·) <$> unescape part rest
    else (c :: ·) <$> unescape part rest

def scheme (s : List UInt8) : Except String (List UInt8 × List UInt8) :=
  go [] s
where
  go (acc : List UInt8) : List UInt8 → Except String (List UInt8 × List UInt8)
    | [] => .ok ([], s)
    | c :: rest =>
      if isAlphaByte c then go (acc ++ [c]) rest
      else if isDigitByte c || c == 43 || c == 45 || c == 46 then
        if acc.isEmpty then .ok ([], s) else go (acc ++ [c]) rest
      else if c == 58 then
        if acc.isEmpty then .error "missing protocol scheme" else .ok (acc, rest)
      else .ok ([], s)

def validOptionalPort : List UInt8 → Bool
  | [] => true
  | 58 :: digits => digits.all isDigitByte
  | _ => false

def cut (sep : UInt8) (s : List UInt8) : List UInt8 × Option (List UInt8) :=
  match s.idxOf? sep with
  | some i => (s.take i, some (s.drop (i + 1)))
  | none => (s, none)

def lastIndex (sep : UInt8) (s : List UInt8) : Option Nat :=
  (s.zipIdx.filter (·.1 == sep)).getLast?.map (·.2)

def portError (p : List UInt8) : String := "invalid port " ++ Quote.quoteBytes p ++ " after host"

def find? (needle s : List UInt8) : Option Nat :=
  (List.range (s.length + 1)).find? fun i => (s.drop i).take needle.length == needle

def parseHost (host : List UInt8) : Except String (List UInt8) :=
  if host.head? == some 91 then
    match lastIndex 93 host with
    | none => .error "missing ']' in host"
    | some i =>
      let colonPort := host.drop (i + 1)
      if !validOptionalPort colonPort then .error (portError colonPort)
      else match find? (bytesOf "%25") (host.take i) with
        | some z => do
          let a ← unescape .host (host.take z)
          let b ← unescape .zone ((host.take i).drop z)
          let c ← unescape .host (host.drop i)
          pure (a ++ b ++ c)
        | none => unescape .host host
  else
    match lastIndex 58 host with
    | some i =>
      let colonPort := host.drop i
      if !validOptionalPort colonPort then .error (portError colonPort) else unescape .host host
    | none => unescape .host host

def validUserinfo (s : List UInt8) : Bool :=
  s.all fun c => isAlphaByte c || isDigitByte c || isIn c "-._:~!$&'()*+,;=%@"

def parseAuthority (authority : List UInt8) :
    Except String (Option (List UInt8 × Option (List UInt8)) × List UInt8) := do
  match lastIndex 64 authority with
  | none => pure (none, ← parseHost authority)
  | some i =>
    let host ← parseHost (authority.drop (i + 1))
    let info := authority.take i
    if !validUserinfo info then throw "net/url: invalid userinfo"
    match cut 58 info with
    | (name, none) => pure (some (← unescape .userPassword name, none), host)
    | (name, some pass) =>
      let name ← unescape .userPassword name
      let pass ← unescape .userPassword pass
      pure (some (name, some pass), host)

def parseBase (raw : List UInt8) : Except String Parsed := do
  if raw.any (fun c => c < 32 || c == 127) then throw "net/url: invalid control character in URL"
  if raw == [42] then return { path := [42] }
  let (sch, rest) ← scheme raw
  let sch := sch.map fun c => if 65 ≤ c && c ≤ 90 then c + 32 else c
  let (rest, query) :=
    if rest.getLast? == some 63 && rest.count 63 == 1 then (rest.dropLast, [])
    else match cut 63 rest with
      | (r, q) => (r, q.getD [])
  if rest.head? != some 47 then
    if !sch.isEmpty then return { scheme := sch, rootless := rest, query }
    if ((cut 47 rest).1).contains 58 then throw "first path segment in URL cannot contain colon"
  let slash2 := rest.take 2 == [47, 47]
  let (user, host, rest) ← if (!sch.isEmpty || (rest.take 3 != [47, 47, 47])) && slash2 then do
      let auth := rest.drop 2
      let (authority, rest) := match auth.idxOf? 47 with
        | some i => (auth.take i, auth.drop i)
        | none => (auth, [])
      let (user, host) ← parseAuthority authority
      pure (user, host, rest)
    else pure (none, [], rest)
  let path ← unescape .path rest
  return { scheme := sch, user, host, path, query }

def parse (s : String) : Except String Parsed :=
  let raw := bytesOf s
  let (base, frag) := cut 35 raw
  match parseBase base with
  | .error e => .error ("parse " ++ Quote.quoteBytes base ++ ": " ++ e)
  | .ok u =>
    match frag with
    | none => .ok u
    | some f =>
      match unescape .fragment f with
      | .ok fragment => .ok { u with fragment }
      | .error e => .error ("parse " ++ Quote.quoteBytes raw ++ ": " ++ e)

def splitHostPort (hostPort : List UInt8) : List UInt8 × List UInt8 :=
  let (host, port) := match lastIndex 58 hostPort with
    | some i => if validOptionalPort (hostPort.drop i) then (hostPort.take i, hostPort.drop (i + 1)) else (hostPort, [])
    | none => (hostPort, [])
  if host.head? == some 91 && host.getLast? == some 93 then ((host.drop 1).dropLast, port) else (host, port)

def Parsed.hostname (u : Parsed) : List UInt8 := (splitHostPort u.host).1

def Parsed.port (u : Parsed) : List UInt8 := (splitHostPort u.host).2

end Erc4337.Url
