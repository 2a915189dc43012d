import ApiSurface.Catalog.Basic
import ApiSurface.Files.FileTree

/-!
# Failures of commands

Why a command ends early: a file that cannot be read, understood or written, or an answer that
is not there.
-/

namespace ApiSurface

open Document

inductive Failure where
  | unreadableCatalog (path : String) (error : FileError)
  | malformedCatalog (path : String) (format : DocumentFormat) (error : DecodeError)
  | noSettings (path : String)
  | unreadableSettings (path : String) (error : FileError)
  | malformedSettings (path : String) (error : DecodeError)
  | noDirectory (path : String) (error : FileError)
  | notWritten (path : String) (error : FileError)
  | noResource (name : String)
  | lint (message : String)
  deriving DecidableEq, Repr

inductive Cause where
  | file (error : FileError)
  | text (format : DocumentFormat) (error : DecodeError)
  deriving DecidableEq, Repr

namespace Failure

def message : Failure → String
  | .unreadableCatalog path _ => "Failed to read catalog: " ++ path
  | .malformedCatalog path _ _ => "Failed to parse catalog: " ++ path
  | .noSettings path => "Settings file not found: " ++ path
  | .unreadableSettings path _ => "Failed to read settings file: " ++ path
  | .malformedSettings path _ => "Failed to parse settings file: " ++ path
  | .noDirectory path _ => "Failed to create directory " ++ Text.quote path
  | .notWritten path _ => "Failed to write " ++ Text.quote path
  | .noResource name => "No synthesized resource named '" ++ name ++ "'"
  | .lint message => message

def cause? : Failure → Option Cause
  | .unreadableCatalog _ error => some (.file error)
  | .malformedCatalog _ format error => some (.text format error)
  | .noSettings _ => none
  | .unreadableSettings _ error => some (.file error)
  | .malformedSettings _ error => some (.text .toml error)
  | .noDirectory _ error => some (.file error)
  | .notWritten _ error => some (.file error)
  | .noResource _ => none
  | .lint _ => none

def chain (failure : Failure) : List String :=
  match failure.cause? with
  | none => [failure.message]
  | some (.file error) => [failure.message, error.message]
  | some (.text _ error) => [failure.message, error.message]

end Failure

end ApiSurface
