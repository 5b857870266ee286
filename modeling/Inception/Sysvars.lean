/-!
# Sysvars — the global rule knobs

`inception_sysvars.cc`: every knob the modelled functions read, with its default.  A severity knob
is `0` (off), `1` (warning) or `2` (error); a `char*` knob is `none` while unset.  The knobs are
process-wide and may change between any two reads, so every function that reads one takes the
current `Sysvars` as an argument.
-/

namespace Inception

/-- The `opt_*` globals. -/
structure Sysvars where
  checkPrimaryKey : Nat := 2
  checkTableComment : Nat := 2
  checkColumnComment : Nat := 2
  checkEngineInnodb : Nat := 2
  checkDmlWhere : Nat := 2
  checkDmlLimit : Nat := 0
  checkInsertColumn : Nat := 2
  checkSelectStar : Nat := 0
  checkNullable : Nat := 1
  checkForeignKey : Nat := 0
  checkBlobType : Nat := 0
  checkIndexPrefix : Nat := 1
  checkEnumType : Nat := 0
  checkSetType : Nat := 0
  checkBitType : Nat := 0
  checkJsonType : Nat := 0
  checkJsonBlobTextDefault : Nat := 2
  checkCreateSelect : Nat := 0
  checkIdentifier : Nat := 0
  checkNotNullDefault : Nat := 0
  checkDuplicateIndex : Nat := 1
  checkDropDatabase : Nat := 2
  checkDropTable : Nat := 1
  checkTruncateTable : Nat := 1
  checkDelete : Nat := 0
  checkAutoincrement : Nat := 1
  checkPartition : Nat := 1
  checkOrderbyInDml : Nat := 1
  checkOrderbyRand : Nat := 1
  checkAutoincrementInitValue : Nat := 1
  checkAutoincrementName : Nat := 0
  checkTimestampDefault : Nat := 1
  checkColumnCharset : Nat := 0
  checkColumnDefaultValue : Nat := 0
  checkIdentifierKeyword : Nat := 0
  checkMergeAlterTable : Nat := 1
  checkVarcharShrink : Nat := 1
  checkLossyTypeChange : Nat := 1
  checkDecimalChange : Nat := 0
  checkTidbMergeAlter : Nat := 2
  checkTidbVarcharShrink : Nat := 2
  checkTidbDecimalChange : Nat := 2
  checkTidbLossyTypeChange : Nat := 2
  checkTidbForeignKey : Nat := 2
  supportCharset : Option String := none
  mustHaveColumns : Option String := none
  inceptionUser : Option String := none
  inceptionPassword : Option String := none
  inceptionPasswordEncryptKey : Option String := none
  checkIndexLength : Nat := 1
  checkInsertValuesMatch : Nat := 2
  checkInsertDuplicateColumn : Nat := 2
  checkColumnExists : Nat := 2
  checkMustHaveColumns : Nat := 2
  checkMaxIndexes : Nat := 16
  checkMaxIndexParts : Nat := 5
  checkMaxUpdateRows : Nat := 10000
  checkMaxCharLength : Nat := 64
  checkMaxPrimaryKeyParts : Nat := 5
  checkMaxTableNameLength : Nat := 64
  checkMaxColumnNameLength : Nat := 64
  checkMaxColumns : Nat := 0
  checkIndexColumnMaxBytes : Nat := 767
  checkIndexTotalMaxBytes : Nat := 3072
  checkInCount : Nat := 0
  execMaxThreadsRunning : Nat := 0
  execMaxReplicationDelay : Nat := 0
  execCheckReadOnly : Bool := true

/-- A `char*` knob that is set and not the empty string (`p && p[0] != '\0'`). -/
def knobSet : Option String → Bool
  | some s => s ≠ ""
  | none => false

end Inception
