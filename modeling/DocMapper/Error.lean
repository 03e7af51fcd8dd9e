/-!
What can be wrong with a document type or with a method name, and the sentence each fault
is reported with.
-/

namespace DocMapper

inductive ConfigError where
  | duplicateFieldRole (type role first second : String)
  | emptyRolloverConditions (type : String)
  | emptyTimePattern (type : String)
  | invalidTimePattern (type pattern : String)
  | emptyWriteAlias (type : String)
  | emptyIndexName (type : String)
  | unknownTimeField (type field : String)
  | duplicateField (type field : String)
  | invalidDuration (value : String)
  | invalidByteSize (value : String)
  | invalidSchedule (value : String)
  | missingParentRouting (type parent : String)
  | unknownRoutingField (type field : String)
  | unknownDocumentType (type : String)
  | notRolloverBacked (type : String)
deriving DecidableEq, Repr

def ConfigError.message : ConfigError → String
  | .duplicateFieldRole type role first second =>
      s!"💀 Document type '{type}' marks both '{first}' and '{second}' as its {role} field. " ++
        "One role, one field. Pick a favorite."
  | .emptyRolloverConditions type =>
      s!"💀 Document type '{type}' opts into rollover but sets no condition. " ++
        "At least one of max_age, max_docs or max_size is required, otherwise it would never roll."
  | .emptyTimePattern type =>
      s!"💀 Document type '{type}' declares a time pattern, but it resolved to an empty string."
  | .invalidTimePattern type pattern =>
      s!"💀 Document type '{type}' declares a time pattern '{pattern}' that strftime cannot read."
  | .emptyWriteAlias type =>
      s!"💀 Document type '{type}' has a rollover block without a write alias name."
  | .emptyIndexName type =>
      s!"💀 Document type '{type}' resolved to an empty index name. Nowhere to write, nowhere to read."
  | .unknownTimeField type field =>
      s!"💀 Document type '{type}' names '{field}' as its time field, but no such field is declared."
  | .duplicateField type field =>
      s!"💀 Document type '{type}' declares field '{field}' twice."
  | .invalidDuration value =>
      s!"💀 '{value}' is not a duration we understand. Try something like 30s, 15m, 12h or 30d."
  | .invalidByteSize value =>
      s!"💀 '{value}' is not a byte size we understand. Try something like 512mb or 5gb."
  | .invalidSchedule value =>
      s!"💀 '{value}' is not a schedule we understand. " ++
        "Try '@every 1h', '@daily', '0 */15 * * * *' or just '15m'."
  | .missingParentRouting type parent =>
      s!"💀 Document type '{type}' is a child of '{parent}' but has neither a routing field " ++
        "nor a parent-id field. Children must land on their parent's shard."
  | .unknownRoutingField type field =>
      s!"💀 Document type '{type}' names '{field}' as its routing field, but no such field is declared."
  | .unknownDocumentType type =>
      s!"💀 No document type named '{type}' is registered."
  | .notRolloverBacked type =>
      s!"💀 Document type '{type}' is not rollover backed, so there is nothing to roll."

/-- A method name, or its arguments, that cannot become a query. -/
inductive DerivationError where
  | malformedMethodName (method reason : String)
  | unsupportedPredicate (token keyword : String)
  | missingProperty (token property : String)
  | arityMismatch (token : String) (expected actual : Nat)
  | invalidArgument (token reason : String)
  | trailingArguments (method : String) (consumed supplied : Nat)
  | unknownSortProperty (token property : String)
deriving DecidableEq, Repr

def DerivationError.message : DerivationError → String
  | .malformedMethodName method reason => s!"💀 Method name '{method}' cannot be derived: {reason}"
  | .unsupportedPredicate token keyword =>
      s!"💀 Token '{token}' uses predicate '{keyword}', which the engine has no query for."
  | .missingProperty token property =>
      s!"💀 Token '{token}' refers to property '{property}', which the document type does not declare."
  | .arityMismatch token expected actual =>
      s!"💀 Token '{token}' needs {expected} argument(s) but only {actual} were left."
  | .invalidArgument token reason =>
      s!"💀 Token '{token}' got an argument it cannot use: {reason}"
  | .trailingArguments method consumed supplied =>
      s!"💀 Method '{method}' consumed {consumed} argument(s) but {supplied} were supplied."
  | .unknownSortProperty token property =>
      s!"💀 Sort token '{token}' refers to property '{property}', which the document type does not declare."

end DocMapper
