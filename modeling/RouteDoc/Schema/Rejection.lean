import RouteDoc.Schema.Violation
import RouteDoc.Uri.Reader

namespace RouteDoc.Schema

/-- Why a document is not at hand. -/
inductive Absence where
  | unknownScheme (scheme : String)
  /-- The documents that can be referred to are already collected. -/
  | closed
deriving DecidableEq, Repr

def Absence.message : Absence → String
  | unknownScheme scheme => "Unknown scheme " ++ scheme
  | closed => "Retrieving external resources is not supported once the registry is populated"

inductive Rejection where
  | badReference (text : String) (cause : Uri.Fault)
  | absent (place : String) (cause : Absence)
  | unknownDraft (name : String)
  | nowhere (pointer : String)
  | badIndex (index pointer : String)
  | badEncoding (pointer : String)
  | noAnchor (name : String)
  | badAnchor (name : String)
  | violation (cause : Violation)
deriving Repr

def Rejection.message : Rejection → String
  | badReference text cause => "Invalid URI reference '" ++ text ++ "': " ++ cause.message
  | absent place cause =>
    "Resource '" ++ place ++ "' is not present in a registry and retrieving it failed: " ++
      cause.message
  | unknownDraft name => "Unknown specification: " ++ name
  | nowhere pointer => "Pointer '" ++ pointer ++ "' does not exist"
  | badIndex index pointer =>
    "Failed to parse array index '" ++ index ++ "' in pointer '" ++ pointer ++ "'"
  | badEncoding pointer =>
    "Invalid percent encoding in pointer '" ++ pointer ++
      "': the decoded bytes do not represent valid UTF-8"
  | noAnchor name => "Anchor '" ++ name ++ "' does not exist"
  | badAnchor name => "Anchor '" ++ name ++ "' is invalid"
  | violation cause => cause.message

end RouteDoc.Schema
