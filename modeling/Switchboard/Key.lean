import Switchboard.Error
import Switchboard.Text.Quoted

/-
This file addresses remotely invocable operations by namespace and operation name.
-/

namespace Switchboard

/--
A key has two nonempty parts. The operation holds no slash, so the path of a key splits back into
the same parts at its last slash.
-/
structure OperationKey where
  namespaceName : String
  operation : String
  namespaceNonempty : namespaceName ≠ ""
  operationNonempty : operation ≠ ""
  operationNoSlash : '/' ∉ operation.toList
  deriving DecidableEq

/-- Each fault is one way in which two texts fail to be the parts of a key. -/
inductive KeyFault where
  | emptyNamespace
  | emptyOperation (namespaceName : String)
  | slashInOperation (operation : String)
  deriving DecidableEq, Repr

def KeyFault.message : KeyFault → String
  | .emptyNamespace => "namespace is empty"
  | .emptyOperation namespaceName => s!"operation is empty in namespace {namespaceName}"
  | .slashInOperation operation => s!"operation {Text.quoted operation} contains '/'"

def KeyFault.toError (fault : KeyFault) : Error := .invalidKey fault.message

/-- This function splits a list at its last slash, which belongs to neither part. -/
def splitAtLastSlash : List Char → Option (List Char × List Char)
  | [] => none
  | character :: rest =>
    match splitAtLastSlash rest with
    | some (before, after) => some (character :: before, after)
    | none => if character = '/' then some ([], rest) else none

namespace OperationKey

/-- The first fault in this order is reported. -/
def make (namespaceName operation : String) : Except KeyFault OperationKey :=
  if emptyNamespace : namespaceName = "" then .error .emptyNamespace
  else if emptyOperation : operation = "" then .error (.emptyOperation namespaceName)
  else if slash : '/' ∈ operation.toList then .error (.slashInOperation operation)
  else .ok ⟨namespaceName, operation, emptyNamespace, emptyOperation, slash⟩

def make? (namespaceName operation : String) : Option OperationKey :=
  (make namespaceName operation).toOption

/-- The text of a key joins its parts with a slash. -/
def text (key : OperationKey) : String := s!"{key.namespaceName}/{key.operation}"

/-- The path of a key is the path that a request for it is sent to. -/
def path (key : OperationKey) : String := s!"/{key.namespaceName}/{key.operation}"

/-- A path names a key when a slash starts it and its last slash separates the parts. -/
def ofPath? (path : String) : Option OperationKey :=
  match path.toList with
  | '/' :: rest =>
    match splitAtLastSlash rest with
    | some (before, after) => make? (String.ofList before) (String.ofList after)
    | none => none
  | _ => none

/-- Keys are ordered by namespace and then by operation, code point by code point. -/
def compare (first second : OperationKey) : Ordering :=
  (Ord.compare first.namespaceName second.namespaceName).then
    (Ord.compare first.operation second.operation)

instance : Ord OperationKey := ⟨OperationKey.compare⟩

def debugText (key : OperationKey) : String :=
  "OperationKey \x7b namespace: " ++ Text.quoted key.namespaceName ++ ", operation: " ++
    Text.quoted key.operation ++ " \x7d"

end OperationKey

end Switchboard
