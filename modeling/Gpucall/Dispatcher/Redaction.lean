import Gpucall.Dispatcher.Jobs

/-! What `submit_async` leaves behind of a plan: the job record with the plan that `_storage_safe_plan`
makes, and the audit events with the plan as `redacted_plan_for_audit` and `redact_for_audit` see it. A
SHA-256 digest is a value of its own here, so that two records can be compared up to their digests
(`AuditValue.erase`). -/

namespace Gpucall

/-! ## Values -/

/-- A SHA-256 digest, in hexadecimal digits. -/
structure Digest where
  text : String
  bytes_eq : text.utf8ByteSize = 64

/-- The value that stands for every digest. -/
def Digest.token : Digest where
  text := "0000000000000000000000000000000000000000000000000000000000000000"
  bytes_eq := by decide +kernel

/-- A JSON value whose digests are told from its other strings. -/
inductive AuditValue where
  | null
  | bool (value : Bool)
  | number (text : String)
  | str (value : String)
  | digest (value : Digest)
  | list (items : List AuditValue)
  | dict (fields : List (String × AuditValue))

namespace AuditValue

mutual
/-- The value up to its digests. -/
def erase : AuditValue → AuditValue
  | digest _ => digest .token
  | list items => list (eraseItems items)
  | dict fields => dict (eraseFields fields)
  | value => value

def eraseItems : List AuditValue → List AuditValue
  | [] => []
  | item :: items => item.erase :: eraseItems items

def eraseFields : List (String × AuditValue) → List (String × AuditValue)
  | [] => []
  | (key, item) :: fields => (key, item.erase) :: eraseFields fields
end

def isTrue : AuditValue → Bool
  | bool true => true
  | _ => false

def isNull : AuditValue → Bool
  | null => true
  | _ => false

def nat (n : ℕ) : AuditValue := number (toString n)

/-- `None` or the value -/
def ofOption (f : α → AuditValue) (a : Option α) : AuditValue := a.elim null f

/-- `fields.get(key)` -/
def get (fields : List (String × AuditValue)) (key : String) : AuditValue :=
  (fields.lookup key).getD null

end AuditValue

/-! ## `redact_for_audit` -/

/-- What the redaction uses of the standard library, and the two patterns of `_redact_log_text`. -/
structure Redactor where
  sha256 : String → Digest
  lower : String → String
  /-- `str(value)` -/
  pyStr : AuditValue → String
  redactLogText : String → String
  floatText : ℚ → String
  isoformat : DateTime → String
  /-- One digest takes as many bytes as another. -/
  bytes_pyStr : ∀ value, (pyStr value.erase).utf8ByteSize = (pyStr value).utf8ByteSize

namespace Redactor

open AuditValue

variable (r : Redactor)

/-- `_fingerprint` -/
def fingerprint (kind value : String) : AuditValue :=
  dict [("redacted", bool true), ("kind", str kind), ("sha256", digest (r.sha256 value))]

/-- `_secretish_key` -/
def secretishKey (key : String) : Bool :=
  let lowered := r.lower key
  lowered ∈ ["token", "authorization"] || endswith lowered "_token" ||
    lowered ∈ ["api_key", "access_key", "secret_key", "token_id", "token_secret"] ||
    ["api_key", "access_key", "secret", "signature", "authorization"].any (containsStr lowered)

/-- The summary of a text -/
def textSummary (text : String) : List (String × AuditValue) :=
  [("redacted", bool true), ("sha256", digest (r.sha256 text)), ("bytes", nat text.utf8ByteSize)]

/-- The end of the chain of cases in `redact_for_audit`, for an item that is a string; the patterns of
`_redact_log_text` match nothing in a digest. -/
def redactText (key : String) (item : AuditValue) : AuditValue :=
  if r.secretishKey key then r.fingerprint key (r.pyStr item)
  else
    match item with
    | str text =>
      if r.lower key ∈ ["error", "message", "detail"] then str (r.redactLogText text) else item
    | item => item

mutual
/-- `redact_for_audit` -/
def redactForAudit : AuditValue → AuditValue
  | dict fields => dict (redactFields fields)
  | list items => list (redactItems items)
  | value => value

def redactItems : List AuditValue → List AuditValue
  | [] => []
  | item :: items => redactForAudit item :: redactItems items

def redactFields : List (String × AuditValue) → List (String × AuditValue)
  | [] => []
  | (key, item) :: fields => (key, redactField key item) :: redactFields fields

/-- One round of the loop of `redact_for_audit` -/
def redactField (key : String) : AuditValue → AuditValue
  | dict fields =>
    if key = "inline_inputs" then dict (redactInlines fields)
    else if r.secretishKey key then r.fingerprint key (r.pyStr (dict fields))
    else dict (redactFields fields)
  | list items =>
    if key = "input_refs" then list (redactDataRefs items)
    else if r.secretishKey key then r.fingerprint key (r.pyStr (list items))
    else list (redactItems items)
  | str text =>
    if key ∈ ["uri", "webhook_url"] then r.fingerprint "url" text else r.redactText key (str text)
  | digest value =>
    if key ∈ ["uri", "webhook_url"] then r.fingerprint "url" value.text
    else r.redactText key (digest value)
  | item => r.redactText key item

def redactInlines : List (String × AuditValue) → List (String × AuditValue)
  | [] => []
  | (name, inline) :: fields => (name, redactInline inline) :: redactInlines fields

/-- `_redact_inline` -/
def redactInline : AuditValue → AuditValue
  | dict fields =>
    if (get fields "redacted").isTrue && (fields.lookup "value").isNone then
      dict (redactFields fields)
    else
      dict (r.textSummary (r.pyStr ((fields.lookup "value").getD (str ""))) ++
        [("content_type", get fields "content_type")])
  | value => dict (r.textSummary (r.pyStr value))

def redactDataRefs : List AuditValue → List AuditValue
  | [] => []
  | ref :: refs => redactDataRef ref :: redactDataRefs refs

/-- `_redact_data_ref` -/
def redactDataRef : AuditValue → AuditValue
  | dict fields =>
    dict (redactRefFields fields ++
      [("uri", r.fingerprint "url" (r.pyStr ((fields.lookup "uri").getD (str ""))))])
  | list items => list (redactItems items)
  | value => value

/-- The fields of a reference other than its `uri` -/
def redactRefFields : List (String × AuditValue) → List (String × AuditValue)
  | [] => []
  | (key, item) :: fields =>
    if key = "uri" then redactRefFields fields
    else (key, redactField key item) :: redactRefFields fields
end

end Redactor

/-! ## `redacted_plan_for_audit` -/

mutual
def AuditValue.ofJson : Json → AuditValue
  | .null => .null
  | .bool value => .bool value
  | .number text => .number text
  | .str value => .str value
  | .arr items => .list (ofJsonItems items)
  | .obj fields => .dict (ofJsonFields fields)

def AuditValue.ofJsonItems : List Json → List AuditValue
  | [] => []
  | item :: items => .ofJson item :: ofJsonItems items

def AuditValue.ofJsonFields : List (String × Json) → List (String × AuditValue)
  | [] => []
  | (key, item) :: fields => (key, .ofJson item) :: ofJsonFields fields
end

def IrreversibilityClaim.value : IrreversibilityClaim → String
  | notClaimed => "not_claimed"
  | empirical => "empirical"

/-- A plan with all its attestations as they are stored; the `attestations` of a `CompiledPlan` are
those that routing and the dispatcher read. -/
structure AuditedPlan extends CompiledPlan where
  attestationItems : Dict AuditValue

namespace Redactor

open AuditValue

variable (r : Redactor)

/-- `_response_format_summary` -/
def responseFormatSummary (format : ResponseFormat) : AuditValue :=
  dict [("type", str format.type.value), ("strict", bool format.strict),
    ("json_schema_sha256",
      ofOption (fun schema : Json => digest (r.sha256 (String.ofList (schema.dumps true))))
        format.jsonSchema)]

/-- `_data_ref_audit_summary` -/
def dataRefSummary (ref : DataRef) : AuditValue :=
  dict [("redacted", bool true), ("bytes", ofOption (fun n : ℕ+ => nat n) ref.bytes),
    ("content_type", ofOption str ref.contentType),
    ("sha256_prefix", if truthyStr ref.sha256 then
      ofOption (fun text : String => str (String.ofList (text.toList.take 12))) ref.sha256 else null),
    ("expires_at", ofOption (fun t => str (r.isoformat t)) ref.expiresAt)]

/-- `_inline_audit_summary` -/
def inlineSummary (inline : InlineValue) : AuditValue :=
  dict [("redacted", bool true), ("bytes", nat inline.value.utf8ByteSize),
    ("sha256", digest (r.sha256 inline.value)), ("content_type", str inline.contentType)]

/-- `str(message.content)` -/
def contentText (message : ChatMessage) : String :=
  match message.content with
  | none => "None"
  | some (.text value) => value
  | some (.parts items) => r.pyStr (list (ofJsonItems items))

/-- `_message_audit_summary` -/
def messageSummary (message : ChatMessage) : AuditValue :=
  let text := r.contentText message
  dict [("redacted", bool true), ("role", str message.role.value), ("bytes", nat text.utf8ByteSize),
    ("sha256", digest (r.sha256 text))]

/-- `_text_audit_summary` of a text -/
def textAuditSummary (text : String) : AuditValue :=
  dict [("redacted", bool true), ("bytes", nat text.utf8ByteSize), ("sha256", digest (r.sha256 text))]

/-- `_artifact_export_summary` -/
def artifactExportSummary (artifact : ArtifactExportSpec) : AuditValue :=
  dict [("artifact_chain_id", str artifact.artifactChainId), ("version", str artifact.version),
    ("key_id", r.fingerprint "key_id" artifact.keyId),
    ("parent_artifact_ids", list (artifact.parentArtifactIds.map str)),
    ("legal_hold", bool artifact.legalHold), ("retention_until", ofOption str artifact.retentionUntil)]

/-- `_split_learning_summary` -/
def splitLearningSummary (split : SplitLearningSpec) : AuditValue :=
  dict [("activation_ref", r.dataRefSummary split.activationRef),
    ("encoder_hash_prefix", str (String.ofList (split.encoderHash.toList.take 12))),
    ("dp_epsilon", ofOption (fun x : ℚ≥0 => number (r.floatText x)) split.dpEpsilon),
    ("dp_delta", ofOption (fun x : ℚ≥0 => number (r.floatText x)) split.dpDelta),
    ("irreversibility_claim", str split.irreversibilityClaim.value)]

mutual
/-- `_recipe_snapshot_audit_summary` -/
def recipeSnapshotSummary : AuditValue → AuditValue
  | dict fields => dict (recipeSnapshotFields fields)
  | list items => list (recipeSnapshotItems items)
  | str text => r.textAuditSummary text
  | digest value => r.textAuditSummary value.text
  | value => value

def recipeSnapshotItems : List AuditValue → List AuditValue
  | [] => []
  | item :: items => recipeSnapshotSummary item :: recipeSnapshotItems items

def recipeSnapshotFields : List (String × AuditValue) → List (String × AuditValue)
  | [] => []
  | (key, item) :: fields => (key, recipeSnapshotSummary item) :: recipeSnapshotFields fields
end

/-- `if value.get(key) is not None: summary[key] = f(value.get(key))` -/
def summaryField (fields : List (String × AuditValue)) (f : AuditValue → AuditValue) (key : String) :
    List (String × AuditValue) :=
  if (get fields key).isNull then [] else [(key, f (get fields key))]

/-- `_attestation_audit_summary` -/
def attestationSummary (fields : List (String × AuditValue)) : AuditValue :=
  dict ([("governance_hash", get fields "governance_hash")] ++
    summaryField fields id "caller_governance_hash" ++ summaryField fields id "context_estimate" ++
    summaryField fields r.recipeSnapshotSummary "recipe_snapshot" ++
    ["compile_artifact", "attestation_evidence", "key_release", "artifact_manifest"].flatMap
      (summaryField fields r.redactForAudit))

/-- `redacted_plan_for_audit` -/
def redactedPlanForAudit (plan : AuditedPlan) : AuditValue :=
  dict [("plan_id", str plan.planId), ("policy_version", str plan.policyVersion),
    ("recipe_name", str plan.recipeName), ("task", str plan.task), ("mode", str plan.mode.value),
    ("tuple_chain", list (plan.tupleChain.map str)), ("timeout_seconds", nat plan.timeoutSeconds),
    ("lease_ttl_seconds", nat plan.leaseTtlSeconds),
    ("token_estimation_profile", str plan.tokenEstimationProfile),
    ("token_budget", ofOption (fun n : ℕ+ => nat n) plan.tokenBudget),
    ("max_tokens", ofOption (fun n : ℕ+ => nat n) plan.maxTokens),
    ("temperature", ofOption (fun x => number (r.floatText x)) plan.temperature),
    ("system_prompt", ofOption r.textAuditSummary plan.systemPrompt),
    ("stop_tokens", list (plan.stopTokens.map str)),
    ("repetition_penalty",
      ofOption (fun x : ℚ≥0 => number (r.floatText x)) plan.repetitionPenalty),
    ("guided_decoding", bool plan.guidedDecoding),
    ("output_validation_attempts", nat plan.outputValidationAttempts),
    ("messages", list (plan.messages.map r.messageSummary)),
    ("response_format", ofOption r.responseFormatSummary plan.responseFormat),
    ("artifact_export", ofOption r.artifactExportSummary plan.artifactExport),
    ("split_learning", ofOption r.splitLearningSummary plan.splitLearning),
    ("input_refs", list (plan.inputRefs.map r.dataRefSummary)),
    ("inline_inputs", dict (plan.inlineInputs.map fun input => (input.1, r.inlineSummary input.2))),
    ("attestations", r.attestationSummary plan.attestationItems.entries)]

/-- The payload of `plan.accepted`, as it is appended -/
def planAccepted (plan : AuditedPlan) : AuditValue := r.redactForAudit (r.redactedPlanForAudit plan)

/-- The payload of `job.created`, as it is appended -/
def jobCreated (jobId : String) (plan : AuditedPlan) : AuditValue :=
  r.redactForAudit (dict [("job_id", str jobId), ("plan", r.redactedPlanForAudit plan)])

end Redactor

/-- What `submit_async` persists: the record of the job, and the attestations of its plan. -/
structure StoredJob where
  record : JobRecord
  attestations : Dict AuditValue

def submitAsync (jobId : String) (ownerIdentity : Option String) (createdAt : DateTime)
    (plan : AuditedPlan) : StoredJob where
  record := queuedJob jobId plan.toCompiledPlan ownerIdentity createdAt
  attestations := plan.attestationItems.set "storage_safe_plan" (.bool true)

/-! ## Erasure -/

namespace AuditValue

theorem eraseFields_map (fields : List (String × AuditValue)) :
    eraseFields fields = fields.map fun field => (field.1, field.2.erase) := by
  induction fields with
  | nil => rfl
  | cons field fields ih => rw [eraseFields, ih, List.map_cons]

theorem eraseItems_map (items : List AuditValue) : eraseItems items = items.map erase := by
  induction items with
  | nil => rfl
  | cons item items ih => rw [eraseItems, ih, List.map_cons]

theorem eraseFields_append (fields fields' : List (String × AuditValue)) :
    eraseFields (fields ++ fields') = eraseFields fields ++ eraseFields fields' := by
  simp [eraseFields_map]

theorem lookup_eraseFields (fields : List (String × AuditValue)) (key : String) :
    (eraseFields fields).lookup key = (fields.lookup key).map erase := by
  induction fields with
  | nil => rfl
  | cons field fields ih =>
    obtain ⟨name, item⟩ := field
    rw [eraseFields, List.lookup_cons, List.lookup_cons, ih]
    cases key == name <;> rfl

theorem erase_get (fields : List (String × AuditValue)) (key : String) :
    get (eraseFields fields) key = (get fields key).erase := by
  rw [get, get, lookup_eraseFields]
  cases fields.lookup key <;> rfl

mutual
theorem erase_erase : ∀ value : AuditValue, value.erase.erase = value.erase
  | .null | .bool _ | .number _ | .str _ | .digest _ => rfl
  | list items => by rw [erase, erase, eraseItems_eraseItems items]
  | dict fields => by rw [erase, erase, eraseFields_eraseFields fields]

theorem eraseItems_eraseItems : ∀ items, eraseItems (eraseItems items) = eraseItems items
  | [] => rfl
  | item :: items => by
    rw [eraseItems, eraseItems, erase_erase item, eraseItems_eraseItems items]

theorem eraseFields_eraseFields : ∀ fields, eraseFields (eraseFields fields) = eraseFields fields
  | [] => rfl
  | (key, item) :: fields => by
    rw [eraseFields, eraseFields, erase_erase item, eraseFields_eraseFields fields]
end

theorem isTrue_erase (value : AuditValue) : value.erase.isTrue = value.isTrue := by
  cases value <;> rfl

theorem isNull_erase (value : AuditValue) : value.erase.isNull = value.isNull := by
  cases value <;> rfl

end AuditValue

namespace Redactor

open AuditValue

variable (r : Redactor)

/-- What is taken of a text without its digest -/
theorem erase_textSummary {text text' : String} (h : text.utf8ByteSize = text'.utf8ByteSize) :
    eraseFields (r.textSummary text) = eraseFields (r.textSummary text') := by
  simp only [textSummary, eraseFields, erase, nat, h]

theorem erase_redactText (key : String) (item : AuditValue) :
    (r.redactText key item.erase).erase = (r.redactText key item).erase := by
  by_cases hkey : r.secretishKey key
  · simp only [redactText, hkey, if_true]
    rfl
  · simp only [redactText, hkey]
    cases item <;> simp [erase, eraseItems_eraseItems, eraseFields_eraseFields]

mutual
theorem erase_redactForAudit : ∀ value : AuditValue,
    (r.redactForAudit value.erase).erase = (r.redactForAudit value).erase
  | .null | .bool _ | .number _ | .str _ | .digest _ => rfl
  | list items => by
    rw [erase, redactForAudit, redactForAudit, erase, erase, erase_redactItems items]
  | dict fields => by
    rw [erase, redactForAudit, redactForAudit, erase, erase, erase_redactFields fields]

theorem erase_redactItems : ∀ items : List AuditValue,
    eraseItems (r.redactItems (eraseItems items)) = eraseItems (r.redactItems items)
  | [] => rfl
  | item :: items => by
    rw [eraseItems, redactItems, redactItems, eraseItems, eraseItems, erase_redactForAudit item,
      erase_redactItems items]

theorem erase_redactFields : ∀ fields : List (String × AuditValue),
    eraseFields (r.redactFields (eraseFields fields)) = eraseFields (r.redactFields fields)
  | [] => rfl
  | (key, item) :: fields => by
    rw [eraseFields, redactFields, redactFields, eraseFields, eraseFields,
      erase_redactField key item, erase_redactFields fields]

theorem erase_redactField (key : String) : ∀ item : AuditValue,
    (r.redactField key item.erase).erase = (r.redactField key item).erase
  | .null | .bool _ | .number _ | .str _ => rfl
  | digest value => by
    rw [erase, redactField, redactField]
    split
    · rfl
    · exact r.erase_redactText key (digest value)
  | list items => by
    rw [erase, redactField, redactField]
    by_cases hrefs : key = "input_refs"
    · rw [if_pos hrefs, if_pos hrefs, erase, erase, erase_redactDataRefs items]
    · rw [if_neg hrefs, if_neg hrefs]
      split
      · rfl
      · rw [erase, erase, erase_redactItems items]
  | dict fields => by
    rw [erase, redactField, redactField]
    by_cases hinline : key = "inline_inputs"
    · rw [if_pos hinline, if_pos hinline, erase, erase, erase_redactInlines fields]
    · rw [if_neg hinline, if_neg hinline]
      split
      · rfl
      · rw [erase, erase, erase_redactFields fields]

theorem erase_redactInlines : ∀ fields : List (String × AuditValue),
    eraseFields (r.redactInlines (eraseFields fields)) = eraseFields (r.redactInlines fields)
  | [] => rfl
  | (name, inline) :: fields => by
    rw [eraseFields, redactInlines, redactInlines, eraseFields, eraseFields,
      erase_redactInline inline, erase_redactInlines fields]

theorem erase_redactInline : ∀ value : AuditValue,
    (r.redactInline value.erase).erase = (r.redactInline value).erase
  | .null | .bool _ | .number _ | .str _ => rfl
  | digest value => by
    simp only [erase, redactInline]
    exact congrArg dict (r.erase_textSummary (r.bytes_pyStr (digest value)))
  | list items => by
    simp only [erase, redactInline]
    exact congrArg dict (r.erase_textSummary (r.bytes_pyStr (list items)))
  | dict fields => by
    simp only [erase, redactInline, erase_get, isTrue_erase, lookup_eraseFields, Option.isNone_map]
    split
    · rw [erase, erase, erase_redactFields fields]
    · have hvalue : ((fields.lookup "value").map erase).getD (str "") =
          ((fields.lookup "value").getD (str "")).erase := by
        cases fields.lookup "value" <;> rfl
      rw [hvalue, erase, erase, eraseFields_append, eraseFields_append,
        r.erase_textSummary (r.bytes_pyStr _)]
      simp only [eraseFields, erase_erase]

theorem erase_redactDataRefs : ∀ items : List AuditValue,
    eraseItems (r.redactDataRefs (eraseItems items)) = eraseItems (r.redactDataRefs items)
  | [] => rfl
  | ref :: refs => by
    rw [eraseItems, redactDataRefs, redactDataRefs, eraseItems, eraseItems, erase_redactDataRef ref,
      erase_redactDataRefs refs]

theorem erase_redactDataRef : ∀ value : AuditValue,
    (r.redactDataRef value.erase).erase = (r.redactDataRef value).erase
  | .null | .bool _ | .number _ | .str _ | .digest _ => rfl
  | list items => by
    rw [erase, redactDataRef, redactDataRef, erase, erase, erase_redactItems items]
  | dict fields => by
    rw [erase, redactDataRef, redactDataRef, erase, erase, eraseFields_append, eraseFields_append,
      erase_redactRefFields fields]
    rfl

theorem erase_redactRefFields : ∀ fields : List (String × AuditValue),
    eraseFields (r.redactRefFields (eraseFields fields)) = eraseFields (r.redactRefFields fields)
  | [] => rfl
  | (key, item) :: fields => by
    rw [eraseFields, redactRefFields, redactRefFields]
    by_cases huri : key = "uri"
    · rw [if_pos huri, if_pos huri, erase_redactRefFields fields]
    · rw [if_neg huri, if_neg huri, eraseFields, eraseFields, erase_redactField key item,
        erase_redactRefFields fields]
end

theorem erase_textAuditSummary {text text' : String} (h : text.utf8ByteSize = text'.utf8ByteSize) :
    (r.textAuditSummary text).erase = (r.textAuditSummary text').erase := by
  simp only [textAuditSummary, erase, eraseFields, nat, h]

mutual
theorem erase_recipeSnapshotSummary : ∀ value : AuditValue,
    (r.recipeSnapshotSummary value.erase).erase = (r.recipeSnapshotSummary value).erase
  | .null | .bool _ | .number _ | .str _ => rfl
  | digest value => by
    rw [erase, recipeSnapshotSummary, recipeSnapshotSummary]
    exact r.erase_textAuditSummary (Digest.token.bytes_eq.trans value.bytes_eq.symm)
  | list items => by
    rw [erase, recipeSnapshotSummary, recipeSnapshotSummary, erase, erase,
      erase_recipeSnapshotItems items]
  | dict fields => by
    rw [erase, recipeSnapshotSummary, recipeSnapshotSummary, erase, erase,
      erase_recipeSnapshotFields fields]

theorem erase_recipeSnapshotItems : ∀ items : List AuditValue,
    eraseItems (r.recipeSnapshotItems (eraseItems items)) = eraseItems (r.recipeSnapshotItems items)
  | [] => rfl
  | item :: items => by
    rw [eraseItems, recipeSnapshotItems, recipeSnapshotItems, eraseItems, eraseItems,
      erase_recipeSnapshotSummary item, erase_recipeSnapshotItems items]

theorem erase_recipeSnapshotFields : ∀ fields : List (String × AuditValue),
    eraseFields (r.recipeSnapshotFields (eraseFields fields)) =
      eraseFields (r.recipeSnapshotFields fields)
  | [] => rfl
  | (key, item) :: fields => by
    rw [eraseFields, recipeSnapshotFields, recipeSnapshotFields, eraseFields, eraseFields,
      erase_recipeSnapshotSummary item, erase_recipeSnapshotFields fields]
end

theorem erase_summaryField {f : AuditValue → AuditValue}
    (hf : ∀ value, (f value.erase).erase = (f value).erase) (fields : List (String × AuditValue))
    (key : String) :
    eraseFields (summaryField (eraseFields fields) f key) = eraseFields (summaryField fields f key) := by
  rw [summaryField, summaryField, erase_get, isNull_erase]
  split
  · rfl
  · simp only [eraseFields, hf]

theorem erase_attestationSummary (fields : List (String × AuditValue)) :
    (r.attestationSummary (eraseFields fields)).erase = (r.attestationSummary fields).erase := by
  have hid := erase_summaryField (f := id) erase_erase fields
  have hrecipe := erase_summaryField r.erase_recipeSnapshotSummary fields
  have haudit := erase_summaryField r.erase_redactForAudit fields
  simp only [attestationSummary, erase, eraseFields_append, eraseFields, erase_get, erase_erase, hid,
    hrecipe, haudit, List.flatMap_cons, List.flatMap_nil]

end Redactor

/-! ## Two plans -/

/-- The plan without what may differ -/
def CompiledPlan.withoutContent (plan : CompiledPlan) : CompiledPlan :=
  { plan with inputRefs := [], inlineInputs := [], messages := [], splitLearning := none,
              systemPrompt := none }

def DataRef.withoutUri (ref : DataRef) : DataRef := { ref with uri := "" }

def SplitLearningSpec.withoutUri (split : SplitLearningSpec) : SplitLearningSpec :=
  { split with activationRef := split.activationRef.withoutUri }

def ChatMessage.withoutContent (message : ChatMessage) : ChatMessage := { message with content := none }

/-- Two plans that differ only in what callers have written, of the same length in bytes, in the URIs of
references, and in digests. -/
structure Alike (r : Redactor) (p q : AuditedPlan) : Prop where
  others : p.withoutContent = q.withoutContent
  inputRefs : p.inputRefs.map DataRef.withoutUri = q.inputRefs.map DataRef.withoutUri
  inlineInputs : (p.inlineInputs.map fun input =>
      (input.1, input.2.value.utf8ByteSize, input.2.contentType)) =
    q.inlineInputs.map fun input => (input.1, input.2.value.utf8ByteSize, input.2.contentType)
  messages : (p.messages.map fun message =>
      (message.withoutContent, (r.contentText message).utf8ByteSize)) =
    q.messages.map fun message => (message.withoutContent, (r.contentText message).utf8ByteSize)
  splitLearning : p.splitLearning.map SplitLearningSpec.withoutUri =
    q.splitLearning.map SplitLearningSpec.withoutUri
  systemPrompt : p.systemPrompt.map String.utf8ByteSize = q.systemPrompt.map String.utf8ByteSize
  attestations : AuditValue.eraseFields p.attestationItems.entries =
    AuditValue.eraseFields q.attestationItems.entries

/-- Two jobs are the same up to digests. -/
structure StoredJob.Same (a b : StoredJob) : Prop where
  record : a.record = b.record
  attestations : AuditValue.eraseFields a.attestations.entries =
    AuditValue.eraseFields b.attestations.entries

/-- Neither the job nor the events tell the plans apart. -/
structure LeaveTheSame (r : Redactor) (p q : AuditedPlan) : Prop where
  job : ∀ jobId ownerIdentity createdAt, (submitAsync jobId ownerIdentity createdAt p).Same
    (submitAsync jobId ownerIdentity createdAt q)
  accepted : (r.planAccepted p).erase = (r.planAccepted q).erase
  created : ∀ jobId, (r.jobCreated jobId p).erase = (r.jobCreated jobId q).erase

/-- The URI of `split_learning.activation_ref` -/
def AuditedPlan.activationUri (plan : AuditedPlan) : Option String :=
  plan.splitLearning.map fun split => split.activationRef.uri

/-- What is made of the entries of two lists is the same when it only depends on what is the same. -/
theorem map_eq_of_map_eq {α β γ : Type} {f : α → β} {g : α → γ} {l l' : List α}
    (hfg : ∀ a b, g a = g b → f a = f b) (h : l.map g = l'.map g) : l.map f = l'.map f := by
  induction l generalizing l' with
  | nil => rw [List.map_nil, eq_comm, List.map_eq_nil_iff] at h; rw [h]
  | cons a l ih =>
    cases l' with
    | nil => cases h
    | cons b l' =>
      rw [List.map_cons, List.map_cons, List.cons.injEq] at h
      rw [List.map_cons, List.map_cons, hfg a b h.1, ih h.2]

theorem elim_eq_of_map_eq {α β γ : Type} {f : α → β} {g : α → γ} {a b : Option α} {default : β}
    (hfg : ∀ a b, g a = g b → f a = f b) (h : a.map g = b.map g) :
    a.elim default f = b.elim default f := by
  cases a <;> cases b <;> simp only [Option.map_none, Option.map_some, reduceCtorEq,
    Option.some.injEq] at h
  · rfl
  · exact hfg _ _ h

namespace Alike

open AuditValue

variable {r : Redactor} {p q : AuditedPlan}

theorem dataRefSummary_withoutUri (r : Redactor) (ref : DataRef) :
    r.dataRefSummary ref.withoutUri = r.dataRefSummary ref := rfl

theorem erase_ofOption (f : α → AuditValue) (a : Option α) :
    (ofOption f a).erase = a.elim null fun a => (f a).erase := by
  cases a <;> rfl

/-- The first plan is the second one with its own contents. -/
theorem eq_update (h : Alike r p q) : p = { q with
    inputRefs := p.inputRefs, inlineInputs := p.inlineInputs, messages := p.messages
    splitLearning := p.splitLearning, systemPrompt := p.systemPrompt
    attestationItems := p.attestationItems } := by
  have hplan : p.toCompiledPlan = { p.withoutContent with
      inputRefs := p.inputRefs, inlineInputs := p.inlineInputs, messages := p.messages
      splitLearning := p.splitLearning, systemPrompt := p.systemPrompt } := rfl
  rw [h.others] at hplan
  exact congrArg (AuditedPlan.mk · p.attestationItems) hplan

/-- The summaries of the two plans are the same up to digests. -/
theorem erase_redactedPlanForAudit (h : Alike r p q) :
    (r.redactedPlanForAudit p).erase = (r.redactedPlanForAudit q).erase := by
  have hrefs : p.inputRefs.map r.dataRefSummary = q.inputRefs.map r.dataRefSummary := by
    refine map_eq_of_map_eq (fun a b hab => ?_) h.inputRefs
    rw [← dataRefSummary_withoutUri r a, hab, dataRefSummary_withoutUri]
  have hsplit : ofOption r.splitLearningSummary p.splitLearning =
      ofOption r.splitLearningSummary q.splitLearning := by
    refine elim_eq_of_map_eq (fun a b hab => ?_) h.splitLearning
    have hsame (split : SplitLearningSpec) :
        r.splitLearningSummary split.withoutUri = r.splitLearningSummary split := rfl
    rw [← hsame a, hab, hsame]
  have hinline : (p.inlineInputs.map fun input => (input.1, (r.inlineSummary input.2).erase)) =
      q.inlineInputs.map fun input => (input.1, (r.inlineSummary input.2).erase) := by
    refine map_eq_of_map_eq (fun a b hab => ?_) h.inlineInputs
    obtain ⟨hname, hbytes, htype⟩ := by simpa only [Prod.mk.injEq] using hab
    simp only [Redactor.inlineSummary, erase, eraseFields, nat, hname, hbytes, htype]
  have hmessages : (p.messages.map fun message => (r.messageSummary message).erase) =
      q.messages.map fun message => (r.messageSummary message).erase := by
    refine map_eq_of_map_eq (fun a b hab => ?_) h.messages
    obtain ⟨hothers, hbytes⟩ := by simpa only [Prod.mk.injEq] using hab
    have hrole : a.withoutContent.role = b.withoutContent.role := congrArg ChatMessage.role hothers
    change a.role = b.role at hrole
    simp only [Redactor.messageSummary, erase, eraseFields, nat, hrole, hbytes]
  have hsystem : (ofOption r.textAuditSummary p.systemPrompt).erase =
      (ofOption r.textAuditSummary q.systemPrompt).erase := by
    rw [erase_ofOption, erase_ofOption]
    exact elim_eq_of_map_eq (fun a b hab => r.erase_textAuditSummary hab) h.systemPrompt
  have hattestations : (r.attestationSummary p.attestationItems.entries).erase =
      (r.attestationSummary q.attestationItems.entries).erase := by
    rw [← r.erase_attestationSummary, h.attestations, r.erase_attestationSummary]
  rw [h.eq_update]
  simp only [Redactor.redactedPlanForAudit, hsplit, hrefs]
  simp only [erase, eraseFields, eraseItems_map, eraseFields_map, List.map_map, Function.comp_def,
    hmessages, hinline, hsystem, hattestations]

theorem erase_redactForAudit_congr {a b : AuditValue} (h : a.erase = b.erase) :
    (r.redactForAudit a).erase = (r.redactForAudit b).erase := by
  rw [← r.erase_redactForAudit, h, r.erase_redactForAudit]

theorem planAccepted (h : Alike r p q) : (r.planAccepted p).erase = (r.planAccepted q).erase :=
  erase_redactForAudit_congr h.erase_redactedPlanForAudit

theorem jobCreated (h : Alike r p q) (jobId : String) :
    (r.jobCreated jobId p).erase = (r.jobCreated jobId q).erase :=
  erase_redactForAudit_congr <| by
    simp only [erase, eraseFields, h.erase_redactedPlanForAudit]

theorem eraseFields_set (d : Dict AuditValue) (key : String) (value : AuditValue) :
    eraseFields (d.set key value).entries =
      if key ∈ (eraseFields d.entries).map Prod.fst then
        (eraseFields d.entries).map fun entry => if entry.1 = key then (key, value.erase) else entry
      else eraseFields d.entries ++ [(key, value.erase)] := by
  have hkeys : (eraseFields d.entries).map Prod.fst = d.keys := by
    rw [eraseFields_map, List.map_map]
    rfl
  rw [hkeys, Dict.set]
  split
  · rw [eraseFields_map, eraseFields_map, List.map_map, List.map_map]
    refine List.map_congr_left fun entry _ => ?_
    by_cases hkey : entry.1 = key <;> simp [hkey]
  · rw [eraseFields_append]
    rfl

/-- The record of a job has the split-learning spec of the plan, and nothing else that may differ. -/
theorem queuedJob_iff (h : Alike r p q) (jobId : String) (ownerIdentity : Option String)
    (createdAt : DateTime) :
    queuedJob jobId p.toCompiledPlan ownerIdentity createdAt =
      queuedJob jobId q.toCompiledPlan ownerIdentity createdAt ↔
    p.splitLearning = q.splitLearning := by
  constructor
  · intro hjob
    exact congrArg (fun job : JobRecord => job.plan.splitLearning) hjob
  · intro hsplit
    have hrecord (plan : CompiledPlan) : queuedJob jobId plan ownerIdentity createdAt =
        queuedJob jobId { plan.withoutContent with splitLearning := plan.splitLearning } ownerIdentity
          createdAt := rfl
    rw [hrecord p.toCompiledPlan, hrecord q.toCompiledPlan, h.others, hsplit]

theorem splitLearning_iff (h : Alike r p q) :
    p.splitLearning = q.splitLearning ↔ p.activationUri = q.activationUri := by
  constructor
  · intro heq
    rw [AuditedPlan.activationUri, AuditedPlan.activationUri, heq]
  · intro huri
    have hsame := h.splitLearning
    rw [AuditedPlan.activationUri, AuditedPlan.activationUri] at huri
    cases hp : p.splitLearning with
    | none => rw [hp] at hsame; exact (Option.map_eq_none_iff.mp hsame.symm).symm
    | some split =>
      obtain ⟨split', hq⟩ : ∃ split', q.splitLearning = some split' := by
        cases hq : q.splitLearning with
        | none => rw [hp, hq] at hsame; cases hsame
        | some split' => exact ⟨split', rfl⟩
      rw [hp, hq, Option.map_some, Option.map_some, Option.some.injEq] at hsame huri
      rw [hq, Option.some.injEq]
      have hrestore (split : SplitLearningSpec) : split = { split.withoutUri with
          activationRef := { split.withoutUri.activationRef with uri := split.activationRef.uri } } :=
        rfl
      rw [hrestore split, hsame, huri]
      exact (hrestore split').symm

/-- Nothing that the callers of two plans have written is left behind, except the URI of an activation. -/
theorem leaveTheSame_iff (h : Alike r p q) :
    LeaveTheSame r p q ↔ p.activationUri = q.activationUri := by
  rw [← h.splitLearning_iff]
  constructor
  · intro hsame
    exact (h.queuedJob_iff "" none { year := 1970, month := 1, day := 1 }).mp (hsame.job ..).record
  · intro hsplit
    refine ⟨fun jobId ownerIdentity createdAt => ⟨(h.queuedJob_iff ..).mpr hsplit, ?_⟩,
      h.planAccepted, h.jobCreated⟩
    rw [submitAsync, submitAsync, eraseFields_set, eraseFields_set, h.attestations]

end Alike

def plainStr : AuditValue → String
  | .str text => text
  | .digest value => value.text
  | _ => ""

/-- A redactor for plans without attestations other than digests. -/
def plainRedactor : Redactor where
  sha256 _ := .token
  lower text := String.ofList (text.toList.map Char.toLower)
  pyStr := plainStr
  redactLogText text := text
  floatText := toString
  isoformat t := toString t.year ++ "-" ++ toString t.month ++ "-" ++ toString t.day
  bytes_pyStr value := by
    cases value with
    | digest value => exact Digest.token.bytes_eq.trans value.bytes_eq.symm
    | _ => rfl

/-- A plan with a prompt, and with the digest of its compilation. -/
def promptPlan (prompt : String) (governanceHash : Digest) : AuditedPlan :=
  { echoPlan with
    systemPrompt := some prompt
    messages := [{ content := some (.text prompt) }]
    inlineInputs := [("prompt", { value := prompt })]
    inputRefs := [{ uri := "https://bucket.example/" ++ prompt, gatewayPresigned := true }]
    attestationItems := {
      entries := [("governance_hash", .digest governanceHash)]
      nodup := List.nodup_singleton _ } }

def someDigest : Digest where
  text := "1111111111111111111111111111111111111111111111111111111111111111"
  bytes_eq := by decide +kernel

theorem leaveTheSame_iff_prompt :
    LeaveTheSame plainRedactor (promptPlan "alpha" .token) (promptPlan "bravo" someDigest) :=
  (Alike.leaveTheSame_iff (p := promptPlan "alpha" .token) (q := promptPlan "bravo" someDigest)
    { others := rfl
      inputRefs := rfl
      inlineInputs := rfl
      messages := rfl
      splitLearning := rfl
      systemPrompt := rfl
      attestations := rfl }).mpr rfl

/-- A plan whose activation is read from a presigned URL. -/
def splitPlan (uri : String) : AuditedPlan :=
  { echoPlan with
    mode := .async
    splitLearning := some {
      activationRef := { uri := uri, sha256 := some someDigest.text, gatewayPresigned := true }
      encoderHash := someDigest.text }
    attestationItems := {} }

/-- The record of a job has the presigned URL of the activation. -/
theorem not_leaveTheSame : ¬∀ r p q, Alike r p q → LeaveTheSame r p q := by
  intro hall
  have halike : Alike plainRedactor (splitPlan "https://bucket.example/a?X-Amz-Signature=1")
      (splitPlan "https://bucket.example/b?X-Amz-Signature=2") :=
    { others := rfl
      inputRefs := rfl
      inlineInputs := rfl
      messages := rfl
      splitLearning := rfl
      systemPrompt := rfl
      attestations := rfl }
  have hjob := (hall _ _ _ halike).job "job-1" none { year := 2026, month := 1, day := 1 }
  have huri := halike.splitLearning_iff.mp ((halike.queuedJob_iff ..).mp hjob.record)
  exact absurd huri (by decide)

end Gpucall
