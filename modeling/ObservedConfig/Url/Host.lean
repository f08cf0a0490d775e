import ObservedConfig.Url.Address
import ObservedConfig.Url.Domain
import ObservedConfig.Url.Fault

/-! The host of a URL. Where the scheme is a known one the host is a domain name or an address;
elsewhere it is any text without delimiters, or an IPv6 address. -/
namespace ObservedConfig.Url.Host

def bracketed? : List Char → Option (Option (List Char))
  | '[' :: rest => some (if rest.getLast? = some ']' then some rest.dropLast else none)
  | _ => none

def checkBracketed (text? : Option (List Char)) : Except Fault Unit :=
  if text?.any Address.isIpv6 then .ok () else .error .ipv6

/-- A percent sign and two hexadecimal digits stand for a byte; other percent signs are kept. -/
def unescape : List UInt8 → List UInt8
  | byte :: a :: b :: rest =>
    let escaped? :=
      if byte == 0x25 then Text.natural? 16 [Char.ofNat a.toNat, Char.ofNat b.toNat] else none
    match escaped? with
    | some n => n.toUInt8 :: unescape rest
    | none => byte :: unescape (a :: b :: rest)
  | bytes => bytes

def unescaped? (text : List Char) : Option (List Char) :=
  let bytes := unescape (String.ofList text).toUTF8.toList
  (String.fromUTF8? (ByteArray.mk bytes.toArray)).map String.toList

def checkName (text : List Char) : Except Fault Unit :=
  match (unescaped? text).bind Domain.labels? with
  | none => .error .domainName
  | some labels =>
    if labels = [[]] then .error .emptyHost
    else if Address.endsInNumber labels && !Address.isIpv4 labels then .error .ipv4
    else .ok ()

def check (text : List Char) : Except Fault Unit :=
  match bracketed? text with
  | some inner => checkBracketed inner
  | none => checkName text

def isForbidden (c : Char) : Bool :=
  ['\x00', '\t', '\n', '\r', ' ', '#', '/', ':', '<', '>', '?', '@', '[', '\\', ']', '^',
    '|'].contains c

def checkText (text : List Char) : Except Fault Unit :=
  match bracketed? text with
  | some inner => checkBracketed inner
  | none => if text.any isForbidden then .error .hostCharacter else .ok ()

end ObservedConfig.Url.Host
