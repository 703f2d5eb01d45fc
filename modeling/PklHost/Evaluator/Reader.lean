import PklHost.Message.Outgoing
import PklHost.Url.Parse

/-!
# Readers

A host offers readers for URI schemes of its own, for resources and for modules. A request is answered
by the first reader of its family whose scheme is that of the URI; there is no fallback.
-/

namespace PklHost

open Message (ModuleReaderSpec PathElement ReaderSpec)

/-- A reader of resources. -/
structure ResourceReader where
  spec : ReaderSpec
  read : Url → Except String Bytes
  list : Url → Except String (List PathElement)

/-- A reader of modules. -/
structure ModuleReader where
  spec : ModuleReaderSpec
  read : Url → Except String String
  list : Url → Except String (List PathElement)

/-- The first reader for a URL among readers known by their schemes. -/
def findReader {ρ : Type} (scheme : ρ → String) (readers : List ρ) (url : Url) : Option ρ :=
  readers.find? fun r => scheme r == url.scheme

/-- What a reader gives for a URI. A URI that is none, or that no reader is for, is an error text. -/
def readVia {ρ α : Type} (family : String) (scheme : ρ → String) (readers : List ρ)
    (give : ρ → Url → Except String α) (uri : String) : Except String α :=
  match Url.parse uri with
  | .error fault => .error ("internal error: failed to parse resource url: " ++ fault.message)
  | .ok url =>
    match findReader scheme readers url with
    | some r => give r url
    | none => .error ("No " ++ family ++ " reader found for scheme " ++ url.scheme ++ ":")

/-- The readers of an evaluator, by family. -/
structure Readers where
  resources : List ResourceReader := []
  modules : List ModuleReader := []

namespace Readers

def viaResources {α : Type} (give : ResourceReader → Url → Except String α) (readers : Readers)
    (uri : String) : Except String α :=
  readVia "resource" (fun r => r.spec.scheme) readers.resources give uri

def viaModules {α : Type} (give : ModuleReader → Url → Except String α) (readers : Readers)
    (uri : String) : Except String α :=
  readVia "module" (fun r => r.spec.scheme) readers.modules give uri

end Readers

end PklHost
