import ObservedConfig.Url.Host

/-! Absolute URLs. What comes behind the scheme is read by the kind of the scheme: schemes of
network protocols need a host and take either slash, a file may have a host, and any other scheme
has one only behind two slashes. Only what can be at fault is read: the path and what follows it
never are. -/
namespace ObservedConfig.Url

inductive SchemeKind where
  | network
  | file
  | other
  deriving DecidableEq, Inhabited

def SchemeKind.ofScheme (scheme : String) : SchemeKind :=
  if ["http", "https", "ws", "wss", "ftp"].contains scheme then network
  else if scheme = "file" then file
  else other

/-- The text of a URL: spaces and control characters around it, and tabs and line breaks anywhere,
do not count. -/
def significant (text : String) : List Char :=
  let isOuter (c : Char) : Bool := c.toNat ≤ 0x20
  let trimmed := ((text.toList.dropWhile isOuter).reverse.dropWhile isOuter).reverse
  trimmed.filter fun c => c != '\t' && c != '\n' && c != '\r'

def isSchemeChar (c : Char) : Bool := c.isAlphanum || c == '+' || c == '-' || c == '.'

def scheme? (cs : List Char) : Option (String × List Char) :=
  let name := cs.takeWhile isSchemeChar
  match cs.dropWhile isSchemeChar with
  | ':' :: rest =>
    if name.head?.any Char.isAlpha then some ((String.ofList name).toLower, rest) else none
  | _ => none

def isSlash (c : Char) : Bool := c == '/' || c == '\\'

def endsAuthority (kind : SchemeKind) (c : Char) : Bool :=
  c == '/' || c == '?' || c == '#' || (kind != .other && c == '\\')

def hostSpan (bracketed : Bool) : List Char → List Char × List Char
  | [] => ([], [])
  | c :: cs =>
    if c == ':' && !bracketed then ([], c :: cs)
    else
      let bracketed := if c == '[' then true else if c == ']' then false else bracketed
      let (host, rest) := hostSpan bracketed cs
      (c :: host, rest)

/-- The number behind the host's colon has 16 bits and may be missing. -/
def checkPortNumber (cs : List Char) : Except Fault Unit :=
  let digits := cs.takeWhile (· != '\\')
  if digits.isEmpty || (Text.natural? 10 digits).any (· < 65536) then .ok () else .error .portNumber

def checkHost (kind : SchemeKind) (host : List Char) : Except Fault Unit :=
  match kind with
  | .other => Host.checkText host
  | _ => if host.isEmpty then .error .emptyHost else Host.check host

/-- Checks the user, the host and its number at the beginning of a text. Without a host there may be
neither of the others. -/
def checkAuthority (kind : SchemeKind) (cs : List Char) : Except Fault Unit := do
  let authority := cs.takeWhile (!endsAuthority kind ·)
  let (user, place) := (Text.splitAtLast? '@' authority).getD ([], authority)
  if authority == ['@'] && authority.length < cs.length then .error .emptyHost
  let (host, tail) := hostSpan false place
  checkHost kind host
  if host.isEmpty && (!tail.isEmpty || !(user.isEmpty || user == [':'])) then .error .emptyHost
  checkPortNumber (tail.drop 1)

def isDriveLetter : List Char → Bool
  | [letter, mark] => letter.isAlpha && (mark == ':' || mark == '|')
  | _ => false

/-- Checks the host of a file, behind two slashes. A drive letter is not a host. -/
def checkFileHost (cs : List Char) : Except Fault Unit :=
  let host := cs.takeWhile (!endsAuthority .file ·)
  if host.isEmpty || isDriveLetter host then .ok () else Host.check host

def checkRest : SchemeKind → List Char → Except Fault Unit
  | .network, cs => checkAuthority .network (cs.dropWhile isSlash)
  | .file, a :: b :: cs => if isSlash a && isSlash b then checkFileHost cs else .ok ()
  | .other, '/' :: '/' :: cs => checkAuthority .other cs
  | _, _ => .ok ()

def scheme (text : String) : Except Fault String :=
  match scheme? (significant text) with
  | none => .error .relative
  | some (scheme, rest) => do
    checkRest (SchemeKind.ofScheme scheme) rest
    return scheme

end ObservedConfig.Url
