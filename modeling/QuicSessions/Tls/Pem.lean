import QuicSessions.Text.Utf8
import QuicSessions.Tls.Base64

/-!
# PEM files

A file of labelled sections, each between a line that begins it and one that ends it. What stands
between sections is skipped, and so are sections with labels that are not known. A section without
an end, a beginning that is not closed, and content that is not base64 make the rest of the file
unreadable.
-/

set_option autoImplicit false

namespace QuicSessions.Pem

/-- The labels that are known. -/
inductive Label where
  | certificate
  | publicKey
  | rsaPrivateKey
  | privateKey
  | ecPrivateKey
  | revocationList
  | request
  deriving DecidableEq

namespace Label

def all : List Label :=
  [certificate, publicKey, rsaPrivateKey, privateKey, ecPrivateKey, revocationList, request]

def name : Label → String
  | certificate => "CERTIFICATE"
  | publicKey => "PUBLIC KEY"
  | rsaPrivateKey => "RSA PRIVATE KEY"
  | privateKey => "PRIVATE KEY"
  | ecPrivateKey => "EC PRIVATE KEY"
  | revocationList => "X509 CRL"
  | request => "CERTIFICATE REQUEST"

def ofName? (name : Bytes) : Option Label := all.find? fun l => Utf8.encode l.name == name

end Label

structure Section where
  label : Label
  content : Bytes

/-! ## Lines -/

def isLineEnd (b : UInt8) : Bool := b == 0x0a || b == 0x0d

/-- The lines of a file, each with the character that ends it. -/
def lines : (current : Bytes) → Bytes → List Bytes
  | [], [] => []
  | current, [] => [current.reverse]
  | current, b :: rest =>
    if isLineEnd b then (b :: current).reverse :: lines [] rest else lines (b :: current) rest

def dash : UInt8 := 0x2d

def opening : Bytes := Utf8.encode "-----BEGIN "

def closing (name : Bytes) : Bytes := Utf8.encode "-----END " ++ name ++ List.replicate 5 dash

/-- Counts the dashes at the end of a line that is given backwards, blanks left out, and gives what
stands before them. -/
def trailingDashes : (count : Nat) → (before : Bytes) → Bytes → Nat × Bytes
  | count, before, [] => (count, before)
  | count, before, b :: rest =>
    if b == dash then trailingDashes (count + 1) rest rest
    else if b == 0x20 || isLineEnd b then trailingDashes count before rest
    else (count, before)

/-- The label of a line that begins a section; it stands between two runs of five dashes. -/
def labelOf (line : Bytes) : Option Bytes :=
  let (count, before) := trailingDashes 0 line.reverse line.reverse
  if count = 5 then some (before.reverse.drop opening.length) else none

/-! ## Sections -/

/-- The sections that lines hold, and whether all lines could be read. `inside` is the label of the
section that the lines before have begun, and `text` its content so far. -/
def sectionsOf : (inside : Option Bytes) → (text : Bytes) → List Bytes → List Section × Bool
  | inside, _, [] => ([], inside.isNone)
  | inside, text, line :: rest =>
    if opening.isPrefixOf line then
      match labelOf line with
      | none => ([], false)
      | some name => sectionsOf (some name) text rest
    else
      match inside with
      | none => sectionsOf none text rest
      | some name =>
        if (closing name).isPrefixOf line then
          match Label.ofName? name with
          | none => sectionsOf none [] rest
          | some label =>
            match Base64.decode text with
            | none => ([], false)
            | some content =>
              let (sections, readable) := sectionsOf none [] rest
              (⟨label, content⟩ :: sections, readable)
        else sectionsOf (some name) (text ++ line) rest

/-- The sections of a file up to where it becomes unreadable, and whether it does not. -/
def sections (file : Bytes) : List Section × Bool := sectionsOf none [] (lines [] file)

/-- The certificates of a file that is readable as a whole. -/
def certificates (file : Bytes) : Option (List Bytes) :=
  match sections file with
  | (_, false) => none
  | (found, true) =>
    some ((found.filter fun s => s.label = .certificate).map Section.content)

/-- How a private key is written. -/
inductive KeyForm where
  | pkcs1
  | pkcs8
  | sec1
  deriving DecidableEq

structure PrivateKey where
  form : KeyForm
  content : Bytes

def Section.privateKey? (s : Section) : Option PrivateKey :=
  match s.label with
  | .rsaPrivateKey => some ⟨.pkcs1, s.content⟩
  | .privateKey => some ⟨.pkcs8, s.content⟩
  | .ecPrivateKey => some ⟨.sec1, s.content⟩
  | _ => none

/-- The first private key of a file, which must be readable up to there; otherwise whether the file
is readable. -/
def privateKey (file : Bytes) : Option PrivateKey × Bool :=
  let (found, readable) := sections file
  match found.findSome? Section.privateKey? with
  | some key => (some key, true)
  | none => (none, readable)

end QuicSessions.Pem
