import PyKMIP.Enums

/-!
# Errors and their texts

A handler raises either a `KmipError`, whose status, reason and message reach
the client, or some other Python exception, which the client only sees as a
general failure.
-/

namespace PyKMIP

/-- The classes of exceptions other than `KmipError` that the server can meet. -/
inductive PythonException where
  | attributeError | typeError | valueError | indexError | keyError
  | runtimeError | overflowError | notImplementedError | unicodeDecodeError
  | pendingRollbackError | noResultFound | unsupportedAlgorithm
deriving DecidableEq, Repr

inductive PyError where
  | kmip (status : ResultStatus) (reason : ResultReason) (message : String)
  | python (exception : PythonException)
deriving DecidableEq, Repr

section KmipErrors

variable (message : String)

def cryptographicFailure : PyError :=
  .kmip .operationFailed .cryptographicFailure message

def encodingOptionError : PyError :=
  .kmip .operationFailed .encodingOptionError message

def illegalOperation : PyError :=
  .kmip .operationFailed .illegalOperation message

def indexOutOfBounds : PyError :=
  .kmip .operationFailed .indexOutOfBounds message

def invalidField : PyError :=
  .kmip .operationFailed .invalidField message

def invalidMessage : PyError :=
  .kmip .operationFailed .invalidMessage message

def itemNotFound : PyError :=
  .kmip .operationFailed .itemNotFound message

def keyCompressionTypeNotSupported : PyError :=
  .kmip .operationFailed .keyCompressionTypeNotSupported message

def keyFormatTypeNotSupported : PyError :=
  .kmip .operationFailed .keyFormatTypeNotSupported message

def operationNotSupported : PyError :=
  .kmip .operationFailed .operationNotSupported message

def permissionDenied : PyError :=
  .kmip .operationFailed .permissionDenied message

end KmipErrors

/-- Python's `str.capitalize` on the ASCII names of enumeration members. -/
def capitalize : List Char → List Char
  | [] => []
  | first :: rest => first.toUpper :: rest.map Char.toLower

/-- `''.join([x.capitalize() for x in name.split('_')])`. -/
def capitalizedName (name : String) : String :=
  .ofList ((name.toList.splitOn '_').flatMap capitalize)

/-- Python's `str.title`: a letter is raised unless it follows a letter. -/
def titleFrom (afterLetter : Bool) : List Char → List Char
  | [] => []
  | first :: rest =>
      (if afterLetter then first.toLower else first.toUpper) ::
        titleFrom first.isAlpha rest

def title (name : String) : String := .ofList (titleFrom false name.toList)

example : capitalizedName ObjectType.symmetricKey.name = "SymmetricKey" := by
  decide

example : title Operation.obtainLease.name = "Obtain_Lease" := by
  decide

/-- `"{}".format(...)` of a string that may be `None`. -/
def formatText : Option String → String
  | some text => text
  | none => "None"

def singleQuote : Char := .ofNat 0x27

def doubleQuote : Char := .ofNat 0x22

def backslash : Char := .ofNat 0x5c

def openBrace : Char := .ofNat 0x7b

def closeBrace : Char := .ofNat 0x7d

def hexDigit (value : Nat) : Char := Nat.digitChar (value % 16)

/-- One character of Python's `repr` of an ASCII string. -/
def reprChar (quote char : Char) : List Char :=
  if char = quote || char = backslash then [backslash, char]
  else if char.toNat = 0x0a then [backslash, 'n']
  else if char.toNat = 0x0d then [backslash, 'r']
  else if char.toNat = 0x09 then [backslash, 't']
  else if char.toNat < 0x20 || char.toNat = 0x7f then
    [backslash, 'x', hexDigit (char.toNat / 16), hexDigit char.toNat]
  else [char]

/-- Python's `repr` of a string: single quotes, unless only they occur in it. -/
def reprText (text : String) : String :=
  let chars := text.toList
  let quote :=
    if chars.contains singleQuote && !chars.contains doubleQuote
    then doubleQuote else singleQuote
  .ofList (quote :: chars.flatMap (reprChar quote) ++ [quote])

end PyKMIP
