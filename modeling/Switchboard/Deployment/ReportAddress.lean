/-!
# Addresses for reports

Errors can be reported to an address of the form `https://key@host/project`. Behind the key may
stand a colon and a secret, behind the host a colon and a port, and the project may lie under a
path. An empty address stands for no reports.
-/

set_option autoImplicit false

namespace Switchboard.ReportAddress

/-- A character of a key, a secret or a project. -/
def isNameChar (c : Char) : Bool := c.isAlphanum || c = '-' || c = '_'

/-- The text behind the scheme. -/
def behindScheme? (text : List Char) : Option (List Char) :=
  let schemes := ["https://", "http://"].map String.toList
  (schemes.find? fun scheme => scheme.isPrefixOf text).map fun scheme => text.drop scheme.length

/-- A key, which must not be empty, with a secret or without one. -/
def isKey (text : List Char) : Bool :=
  let key := text.takeWhile (· ≠ ':')
  !key.isEmpty && key.all isNameChar && (text.drop (key.length + 1)).all isNameChar

/-- The name of a host, whose last part starts with a letter. -/
def isHost (text : List Char) : Bool :=
  text.all (fun c => c.isAlphanum || c = '-' || c = '.')
    && (text.reverse.takeWhile (· ≠ '.')).getLast?.any Char.isAlpha

/-- A port behind a colon, or nothing. -/
def isPort : List Char → Bool
  | [] => true
  | ':' :: digits =>
    !digits.isEmpty && digits.all Char.isDigit
      && digits.foldl (fun n d => n * 10 + (d.toNat - '0'.toNat)) 0 < UInt16.size
  | _ => false

/-- A path with a project in it. -/
def isProject (text : List Char) : Bool :=
  text.all (fun c => isNameChar c || c = '/') && text.any isNameChar

/-- Reports can be sent to an address. -/
def isUsable (address : String) : Bool :=
  (behindScheme? address.toList).any fun rest =>
    let key := rest.takeWhile (· ≠ '@')
    let place := rest.drop (key.length + 1)
    let host := place.takeWhile fun c => c ≠ ':' && c ≠ '/'
    let behind := place.drop host.length
    isKey key && isHost host && isPort (behind.takeWhile (· ≠ '/'))
      && isProject (behind.dropWhile (· ≠ '/'))

end Switchboard.ReportAddress
