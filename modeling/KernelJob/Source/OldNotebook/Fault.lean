import KernelJob.Decimal.Binary
import KernelJob.Decimal.Numeral
import KernelJob.Json.Misfit
import KernelJob.Json.Reader
import KernelJob.Text.Utf8

/-! # Faults of older notebooks

A document of an older version has to have every part that the way to the current form looks at.
A `VersionFault` says that it is not in the format of its version; a `Breakdown` says where the way
to the current form ends without a verdict on the format.
-/

namespace KernelJob

/-- What a notebook holds that does not fit its version. -/
inductive Unfit
  /-- A value of another shape than is asked for. -/
  | shape (misfit : Misfit)
  /-- An image whose text is not ASCII. -/
  | image (fault : EncodeFault)
  /-- An output whose JSON text is none. -/
  | contents (fault : Json.Fault)
  /-- A prompt number whose text is no numeral. -/
  | prompt (fault : Numeral.Fault)
  /-- A prompt number that is no number. -/
  | promptNotANumber
  /-- A minor version of which nothing is known. -/
  | minorVersion
  /-- A type of a cell that is no text. -/
  | cellType (type : Json)

/-- What is wrong with the type of a cell, in words. -/
def cellTypeMessage : Json → Text
  | .object _ => "dictionary update sequence element #0 has length 1; 2 is required"
  | .list _ => "can only concatenate list (not \"str\") to list"
  | v => "unsupported operand type(s) for +: '" ++ v.kindName ++ "' and 'str'"

/-- What does not fit, in words. -/
def Unfit.message : Unfit → Text
  | .shape m => m.message
  | .image fault => fault.message
  | .contents fault => fault.message
  | .prompt fault => fault.message
  | .promptNotANumber => WholeFault.notANumber.message
  | .minorVersion => "(None, None)"
  | .cellType type => cellTypeMessage type

/-- A version that no notebook has, or a notebook whose values are not what its version asks for. -/
inductive VersionFault
  /-- The version is not a whole number. -/
  | notWhole (version : Json)
  /-- There is no such version. -/
  | unsupported (version : Json)
  /-- A value is not what its version asks for. -/
  | unfit (cause : Unfit)

/-- What is wrong with a version, in words. -/
def VersionFault.message : VersionFault → Text
  | .notWhole v => "Invalid notebook format version: " ++ v.display
  | .unsupported v =>
    "Cannot convert notebook to version 4: Unsupported nbformat version " ++ v.display
  | .unfit cause => "Cannot convert notebook to version 4: " ++ cause.message

/-- A stage on the way to the current form. -/
inductive UpgradeStage
  | reading
  /-- The step from a version to the next one. -/
  | step (version : Json) (next : Nat)

/-- A part that is missing. -/
inductive Gap
  /-- An object lacks a key. -/
  | key (name : Text)
  /-- A value of some kind has no such part. -/
  | part (kind name : Text)
deriving DecidableEq, Repr

/-- What is missing, in words. -/
def Gap.message : Gap → Text
  | .key name => name
  | .part kind name => (Misfit.noOperation kind name).message

/-- A part that a value lacks. -/
def Gap.of (v : Json) (name : Text) : Gap :=
  match v with
  | .object _ => .key name
  | v => .part v.kindName name

/-- Where the way to the current form ends. -/
inductive Breakdown
  /-- A part is missing. -/
  | incomplete (stage : UpgradeStage) (gap : Gap)
  /-- The first cell is of an unknown type. -/
  | unknownFirstCell
  /-- The minor version is not a whole number. -/
  | minorVersion
  /-- The level of a heading is beyond what can be counted. -/
  | headingLevel
  /-- The level of a heading is beyond what can be written. -/
  | headingSize
  /-- A prompt number is infinite. -/
  | promptNumber

/-- Why the way ends, in words. -/
def Breakdown.message : Breakdown → Text
  | .incomplete .reading gap =>
    "The notebook is invalid and is missing an expected key: " ++ gap.message
  | .incomplete (.step old next) gap =>
    "Notebook could not be converted from version " ++ old.display ++ " to version " ++
      Text.ofNat next ++ " because it's missing a key: " ++ gap.message
  | .unknownFirstCell =>
    "cannot access local variable 'newcell' where it is not associated with a value"
  | .minorVersion => []
  | .headingLevel => "cannot fit 'int' into an index-sized integer"
  | .headingSize => []
  | .promptNumber => WholeFault.infinite.message

/-- Why a notebook of an older version cannot be brought to the current form. -/
inductive UpgradeFault
  | version (fault : VersionFault)
  | breakdown (breakdown : Breakdown)

namespace UpgradeFault

/-- The fault of a value that does not fit its version. -/
def unfit (cause : Unfit) : UpgradeFault := .version (.unfit cause)

/-- The fault of a value of an unexpected shape. -/
def ofMisfit (m : Misfit) : UpgradeFault := unfit (.shape m)

/-- The fault of a missing part. -/
def incomplete (stage : UpgradeStage) (gap : Gap) : UpgradeFault :=
  .breakdown (.incomplete stage gap)

end UpgradeFault

end KernelJob
