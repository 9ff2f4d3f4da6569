import Mathlib
import ContainRes.Api.PayloadReading

/-! # Secrets in the payload logs

Two invocations whose payloads differ only in secrets, and when the texts that are logged for them are the
same.

* **`RequestAgrees`**, **`ResponseAgrees`** — by namespace, the secrets that are not replaced agree.
* **`requestMask_outcomes`**, **`responseMask_outcomes`** — what is logged of two payloads.
* **`logs_agree_iff`** — the texts are the same exactly when the secrets in them are. -/

namespace ContainRes.Api.Payloads

open Store Text

/-! ## The requests -/

/-- The password of the user of a payload. -/
def userPassword (p : Fields) : Option Json := (p.get? "user").bind (fieldOf "password")

/-- By namespace, the secrets of a request that are not replaced agree. -/
def RequestAgrees (ns : String) (p q : Fields) : Prop :=
  match ns with
  | "Auth.InitiateAuth" => p.get? "refresh_token" = q.get? "refresh_token"
  | "Auth.ConfirmForgotPassword" => p.get? "confirmation_code" = q.get? "confirmation_code"
  | "Accounts.CreateUser" =>
    userPassword p = userPassword q ∨ isNotEmpty (userPassword p) ∧ isNotEmpty (userPassword q)
  | _ => True

section Requests

variable {pydantic : Pydantic} {p q : Fields}

/-- A payload of secret texts of which some are replaced: the others have to agree. -/
theorem replaced_outcomes (g : String → Option Part → Option Part) (kept : List String) {type : PayloadType}
    (hnodup : (type.map Prod.fst).Nodup) (hpq : PayloadAlike p q)
    (htype : ∀ a ∈ type, IsPlain a.1 ∨ a.1 ∈ secretTexts ∧ a.2 = .scalar .str)
    (hkept : ∀ name ∈ kept, ∀ x, g name x = x) (hreplaced : ∀ a ∈ type, a.1 ∈ secretTexts → a.1 ∉ kept → ∀ s t,
      g a.1 (some (.scalar (.str s))) = g a.1 (some (.scalar (.str t)))) :
    Outcomes (getPayloadAs pydantic type p) (getPayloadAs pydantic type q)
      (fun m n => (m.mapAttrs g).toDict Part.toJson = (n.mapAttrs g).toDict Part.toJson)
      (∀ a ∈ type, a.1 ∈ kept → p.get? a.1 = q.get? a.1) := by
  refine textPayload_outcomes g (fun name => name ∈ kept → p.get? name = q.get? name) hnodup hpq htype
    (fun a _ h _ => h) fun a ha hsecret s t hp hq => ?_
  by_cases hmem : a.1 ∈ kept
  · simp [hkept a.1 hmem, hp, hq, hmem, Part.toJson]
  · simp [hreplaced a ha hsecret hmem s t, hmem]

/-- Whether a text is replaced is told by what is in its place. -/
theorem maskedText_eq_iff (s t : String) : (if isNotEmpty (some (.str s)) then stars else Json.str s) =
        (if isNotEmpty (some (.str t)) then stars else Json.str t) ↔
      s = t ∨ isNotEmpty (some (.str s)) ∧ isNotEmpty (some (.str t)) := by
  have hstars : isEmpty "*****" = false := by decide
  rcases hs : isEmpty s with _ | _ <;> rcases ht : isEmpty t with _ | _
  · simp [isNotEmpty, hs, ht]
  · have hne : s ≠ t := by
      rintro rfl
      rw [hs] at ht
      cases ht
    have hother : "*****" ≠ t := by
      rintro rfl
      rw [hstars] at ht
      cases ht
    simp [isNotEmpty, hs, ht, hne, stars, hother]
  · have hne : s ≠ t := by
      rintro rfl
      rw [hs] at ht
      cases ht
    have hother : s ≠ "*****" := by
      rintro rfl
      rw [hstars] at hs
      cases hs
    simp [isNotEmpty, hs, ht, hne, stars, hother]
  · simp [isNotEmpty, hs, ht]

/-- The types of the attributes of a user, and that the password is the only secret. -/
theorem user_nodup : (User.map Prod.fst).Nodup := by decide

theorem user_texts : ∀ a ∈ User, a.1 ≠ "key_material" ∧ a.1 ≠ "lines" ∧ (a.1 ∈ secretTexts → a.2 = .str) := by
  decide

theorem eq_password_of_mem_user : ∀ a ∈ User, a.1 ∈ secretTexts → a.1 = "password" := by decide

/-- A user's password is replaced unless it is blank. -/
theorem readRecord_maskPassword_outcomes {v w : Json} (h : RecordAlike v w) :
    Outcomes (readRecord pydantic User v) (readRecord pydantic User w)
      (fun m n => recordJson (maskPassword m) = recordJson (maskPassword n))
      (fieldOf "password" v = fieldOf "password" w ∨
        isNotEmpty (fieldOf "password" v) ∧ isNotEmpty (fieldOf "password" w)) := by
  unfold maskPassword Model.modify
  refine (readRecord_outcomes pydantic _ (fun name => name = "password" → fieldOf "password" v = fieldOf "password" w ∨
      isNotEmpty (fieldOf "password" v) ∧ isNotEmpty (fieldOf "password" w)) user_nodup user_texts ?_ ?_ h).congr ?_
  · rintro a - hget hname
    exact .inl (hname ▸ hget)
  · rintro a ha hsecret s t hs ht
    rw [eq_password_of_mem_user a ha hsecret] at hs ht ⊢
    rw [hs, ht]
    simpa using maskedText_eq_iff s t
  · simp [User]

theorem createUserRequest_outcomes (hpq : PayloadAlike p q) :
    Outcomes (getPayloadAs pydantic CreateUserRequest p) (getPayloadAs pydantic CreateUserRequest q)
      (fun m n => (m.modify "user" (Part.onRecord maskPassword)).toDict Part.toJson =
        (n.modify "user" (Part.onRecord maskPassword)).toDict Part.toJson)
      (RequestAgrees "Accounts.CreateUser" p q) := by
  refine onePart_outcomes "user" (.record User) (fun x => x.map (Part.onRecord maskPassword))
    (RequestAgrees "Accounts.CreateUser" p q) (by decide) hpq (by decide) (by decide) ?_ ?_
  · intro hget
    exact .inl (by rw [userPassword, userPassword, hget])
  · intro v w hv hw hlike hne
    have hrecord := hlike.record (by decide)
    refine readPart_record_outcomes hne hrecord ((readRecord_maskPassword_outcomes hrecord).congr ?_)
    simp [RequestAgrees, userPassword, hv, hw]

variable (pydantic) in
/-- **What is logged of a request.** Where a request is read and masked, the payloads that are logged are the
same exactly if the secrets that are not replaced agree. -/
theorem requestMask_outcomes {ns : String} {type : PayloadType} {mask : Model Part → Model Part}
    (hmask : requestMask ns = some (type, mask)) (hpq : PayloadAlike p q) :
    Outcomes (getPayloadAs pydantic type p) (getPayloadAs pydantic type q)
      (fun m n => (mask m).toDict Part.toJson = (mask n).toDict Part.toJson) (RequestAgrees ns p q) := by
  unfold requestMask at hmask
  split at hmask <;> cases hmask
  · simp only [Model.modify, mapAttrs_mapAttrs]
    refine (replaced_outcomes _ ["refresh_token"] (by decide) hpq (by decide) ?_ ?_).congr ?_
    · simp
    · simp [InitiateAuthRequest, texts, secretTexts]
    · simp [InitiateAuthRequest, texts, RequestAgrees]
  · simp only [Model.setAttr]
    refine (replaced_outcomes _ [] (by decide) hpq (by decide) ?_ ?_).congr ?_
    · simp
    · simp [SignOutRequest, secretTexts]
    · simp [RequestAgrees]
  · simp only [Model.setAttr]
    refine (replaced_outcomes _ [] (by decide) hpq (by decide) ?_ ?_).congr ?_
    · simp
    · simp [RespondToAuthChallengeRequest, secretTexts]
    · simp [RequestAgrees]
  · simp only [Model.setAttr]
    refine (replaced_outcomes _ ["confirmation_code"] (by decide) hpq (by decide) ?_ ?_).congr ?_
    · simp
    · simp [ConfirmForgotPasswordRequest, texts, secretTexts]
    · simp [ConfirmForgotPasswordRequest, texts, RequestAgrees]
  · simp only [Model.setAttr, mapAttrs_mapAttrs]
    refine (replaced_outcomes _ [] (by decide) hpq (by decide) ?_ ?_).congr ?_
    · simp
    · simp [ChangePasswordRequest, texts, secretTexts]
    · simp [RequestAgrees]
  · exact createUserRequest_outcomes hpq

end Requests

/-! ## The responses -/

variable (conversions : Conversions)

/-- The passwords of the users that are logged of a listing. -/
def listedPasswords (p : Fields) : List (Option Json) :=
  match p.get? "listing" with
  | some (.arr items) => (items.toList.take maxListingsForLogging).map (fieldOf "password")
  | _ => []

/-- By namespace, the secrets of a response that are not replaced agree. -/
def ResponseAgrees (ns : String) (p q : Fields) : Prop :=
  match ns with
  | "Auth.RespondToAuthChallenge" =>
    (p.get? "auth").bind (fieldOf "id_token") = (q.get? "auth").bind (fieldOf "id_token")
  | "Auth.GetUserPrivateKey" =>
    (getAsInt conversions (p.get? "key_material") 0).toOption =
      (getAsInt conversions (q.get? "key_material") 0).toOption
  | "Accounts.ListUsers" => listedPasswords p = listedPasswords q
  | _ => True

section Responses

variable {conversions} {pydantic : Pydantic} {p q : Fields}

theorem authResult_nodup : (AuthResult.map Prod.fst).Nodup := by decide

theorem authResult_texts :
    ∀ a ∈ AuthResult, a.1 ≠ "key_material" ∧ a.1 ≠ "lines" ∧ (a.1 ∈ secretTexts → a.2 = .str) := by
  decide

/-- The tokens of a sign-in are all replaced. -/
theorem initiateAuthResult_outcomes (hpq : PayloadAlike p q) :
    Outcomes (getPayloadAs pydantic InitiateAuthResult p) (getPayloadAs pydantic InitiateAuthResult q)
      (fun m n => (m.modify "auth" (Part.onRecord fun auth =>
          ((auth.setAttr "access_token" stars).modify "id_token" fun _ => stars).modify "refresh_token"
            fun _ => stars)).toDict Part.toJson = (n.modify "auth" (Part.onRecord fun auth =>
          ((auth.setAttr "access_token" stars).modify "id_token" fun _ => stars).modify "refresh_token"
            fun _ => stars)).toDict Part.toJson) True := by
  refine onePart_outcomes "auth" (.record AuthResult) _ True (by decide) hpq (by decide) (by decide)
    (fun _ => trivial) ?_
  intro v w hv hw hlike hne
  have hrecord := hlike.record (by decide)
  refine readPart_record_outcomes hne hrecord ?_
  simp only [Model.setAttr, Model.modify, mapAttrs_mapAttrs]
  refine (readRecord_outcomes pydantic _ (fun _ => True) authResult_nodup authResult_texts (fun _ _ _ => trivial) ?_
    hrecord).congr (by simp)
  intro a ha hsecret s t _ _
  revert a
  simp [AuthResult, secretTexts]

variable (conversions) in
/-- Of the tokens of a challenge, the id token is kept. -/
theorem respondToAuthChallengeResult_outcomes (hpq : PayloadAlike p q) :
    Outcomes (getPayloadAs pydantic RespondToAuthChallengeResult p)
      (getPayloadAs pydantic RespondToAuthChallengeResult q) (fun m n => (m.modify "auth" (Part.onRecord fun auth =>
          (auth.setAttr "access_token" stars).modify "refresh_token" fun _ => stars)).toDict Part.toJson =
        (n.modify "auth" (Part.onRecord fun auth =>
          (auth.setAttr "access_token" stars).modify "refresh_token" fun _ => stars)).toDict Part.toJson)
      (ResponseAgrees conversions "Auth.RespondToAuthChallenge" p q) := by
  refine onePart_outcomes "auth" (.record AuthResult) _ _ (by decide) hpq (by decide) (by decide) ?_ ?_
  · intro hget
    simp [ResponseAgrees, hget]
  · intro v w hv hw hlike hne
    have hrecord := hlike.record (by decide)
    refine readPart_record_outcomes hne hrecord ?_
    simp only [Model.setAttr, Model.modify, mapAttrs_mapAttrs]
    refine (readRecord_outcomes pydantic _ (fun name => name = "id_token" → fieldOf "id_token" v = fieldOf "id_token" w)
      authResult_nodup authResult_texts ?_ ?_ hrecord).congr ?_
    · intro a _ hget hname
      exact hname ▸ hget
    · intro a ha hsecret s t hs ht
      revert a
      simp +contextual [AuthResult, secretTexts]
    · simp [ResponseAgrees, hv, hw, AuthResult]

theorem keyMaterialText_inj {m n : Int} : keyMaterialText m = keyMaterialText n ↔ m = n := by
  unfold keyMaterialText
  rw [Json.str.injEq]
  constructor
  · intro h
    have hlist := congrArg String.toList h
    simp only [String.toList_append, List.append_cancel_left_eq, List.append_cancel_right_eq,
      String.toList_inj, toString] at hlist
    exact Int.repr_inj.mp hlist
  · rintro rfl
    rfl

theorem run_maskKeyMaterial (name : Option Part) (s : String) :
    maskKeyMaterial conversions [("name", name), ("key_material", some (.scalar (.str s)))] =
      (getAsInt conversions (some (.str s)) 0).map fun keySize =>
        [("name", name), ("key_material", some (.scalar (keyMaterialText keySize)))] := by
  have hattr : Model.getAttr [("name", name), ("key_material", some (.scalar (.str s)))] "key_material" =
      some (.scalar (.str s)) := by
    simp [Model.getAttr, List.lookup_cons]
  rw [maskKeyMaterial, hattr]
  have hset : ∀ value, Model.setAttr [("name", name), ("key_material", some (Part.scalar (.str s)))]
      "key_material" value = [("name", name), ("key_material", some value)] := by
    intro value
    simp [Model.setAttr, Model.mapAttrs]
  simp only [hset, Option.map_some, Part.toJson]
  rfl

/-- A private key leaves its size. -/
theorem getUserPrivateKeyResult_outcomes (hpq : PayloadAlike p q) :
    Outcomes (getPayloadAs pydantic GetUserPrivateKeyResult p) (getPayloadAs pydantic GetUserPrivateKeyResult q)
      (fun m n => (maskKeyMaterial conversions m).toOption.map (Model.toDict Part.toJson) =
        (maskKeyMaterial conversions n).toOption.map (Model.toDict Part.toJson))
      (ResponseAgrees conversions "Auth.GetUserPrivateKey" p q) := by
  have hname : p.get? "name" = q.get? "name" := by
    rcases hpq.get? "name" with ⟨hp, hq⟩ | ⟨v, w, hp, hq, hvw⟩
    · rw [hp, hq]
    · rw [hp, hq, hvw.eq_of_isPlain (by decide)]
  have hread : ∀ f : Fields, getPayloadAs pydantic GetUserPrivateKeyResult f =
      readOptional (readPart pydantic (.scalar .str)) (f.get? "name") >>= fun name =>
        readOptional (readPart pydantic (.scalar .str)) (f.get? "key_material") >>= fun key =>
          Except.ok [("name", name), ("key_material", key)] := by
    intro f
    simp [getPayloadAs, GetUserPrivateKeyResult, texts, readModel]
  rw [hread, hread, hname]
  rcases hpq.get? "key_material" with ⟨hp, hq⟩ | ⟨v, w, hp, hq, hvw⟩
  · rw [hp, hq]
    exact Outcomes.same (by simp [ResponseAgrees, hp, hq]) _
  · rcases hvw.keyMaterial with rfl | ⟨s, t, rfl, rfl⟩
    · rw [hp, hq]
      exact Outcomes.same (by simp [ResponseAgrees, hp, hq]) _
    · rw [hp, hq, readOptional_readPart_str, readOptional_readPart_str]
      cases readOptional (readPart pydantic (.scalar .str)) (q.get? "name") with
      | error e => exact .inl ⟨e, e, rfl, rfl⟩
      | ok name =>
        refine Outcomes.of_ok ?_
        rw [run_maskKeyMaterial, run_maskKeyMaterial]
        simp only [ResponseAgrees, hp, hq]
        rcases getAsInt conversions (some (.str s)) 0 with e | m <;>
          rcases getAsInt conversions (some (.str t)) 0 with e' | n
        · simp [Except.map, Except.toOption]
        · simp [Except.map, Except.toOption]
        · simp [Except.map, Except.toOption]
        · simp only [Except.map, Except.toOption, Option.map_some, Option.some.injEq]
          cases name <;> simp [Model.toDict, Part.toJson, keyMaterialText_inj]

/-- The lines of a file are replaced. -/
theorem tailFileResult_outcomes (hpq : PayloadAlike p q) {part : Part} :
    Outcomes (getPayloadAs pydantic TailFileResult p) (getPayloadAs pydantic TailFileResult q)
      (fun m n => (m.setAttr "lines" part).toDict Part.toJson = (n.setAttr "lines" part).toDict Part.toJson) True := by
  refine onePart_outcomes "lines" (.scalar .texts) (fun _ => some part) True (by decide) hpq (by decide)
    (by decide) (fun _ => trivial) ?_
  intro v w hv hw hlike hne
  rcases hlike.lines with heq | ⟨xs, ys, rfl, rfl⟩
  · exact absurd heq hne
  · rw [readOptional_readPart_texts, readOptional_readPart_texts]
    exact Outcomes.of_ok (by simp)

variable {type : RecordType}

/-- The entries of a listing are kept up to the limit. -/
theorem listing_outcomes {D : Json → Json → Prop} {P : Prop} (hpq : PayloadAlike p q)
    (h : ∀ v w, RecordAlike v w → Outcomes (readRecord pydantic type v) (readRecord pydantic type w)
      (fun m n => recordJson m = recordJson n) (D v w)) (hsame : p.get? "listing" = q.get? "listing" → P)
    (hP : ∀ xs ys, p.get? "listing" = some (.arr (.ofList xs)) → q.get? "listing" = some (.arr (.ofList ys)) →
      xs.Forall₂ RecordAlike ys → ((xs.take maxListingsForLogging).Forall₂ D (ys.take maxListingsForLogging) ↔ P)) :
    Outcomes (getPayloadAs pydantic (ListingPayload type) p) (getPayloadAs pydantic (ListingPayload type) q)
      (fun m n => (m.modify "listing" (Part.onRecords truncate)).toDict Part.toJson =
        (n.modify "listing" (Part.onRecords truncate)).toDict Part.toJson) P := by
  refine onePart_outcomes "listing" (.records type) _ P ?_ hpq ?_ ?_ hsame ?_
  · simp [ListingPayload]
  · simp [ListingPayload]
  · simp [ListingPayload, IsPlain, secretTexts]
  · intro v w hv hw hlike hne
    rcases hlike.listing with heq | ⟨xs, ys, rfl, rfl, hxy⟩
    · exact absurd heq hne
    · exact (readPart_records_outcomes hxy h).congr (hP xs ys hv hw hxy)

/-- Objects of a type without secrets. -/
theorem readRecord_plain_outcomes (hnodup : (type.map Prod.fst).Nodup)
    (hplain : ∀ a ∈ type, IsPlain a.1) {v w : Json} (h : RecordAlike v w) :
    Outcomes (readRecord pydantic type v) (readRecord pydantic type w)
      (fun m n => recordJson m = recordJson n) True := by
  have htext : ∀ a ∈ type, a.1 ≠ "key_material" ∧ a.1 ≠ "lines" ∧ (a.1 ∈ secretTexts → a.2 = .str) := by
    intro a ha
    have hplain := hplain a ha
    simp only [IsPlain, List.mem_cons, List.not_mem_nil, or_false, not_or] at hplain
    exact ⟨hplain.2.1, hplain.2.2.1, fun h => absurd h hplain.1⟩
  have hread := readRecord_outcomes pydantic (fun _ value => value) (fun _ => True) hnodup htext
    (fun _ _ _ => trivial) (fun a ha hsecret => absurd hsecret (hplain a ha).1) h
  simp only [mapAttrs_id] at hread
  exact hread.congr (by simp)

variable (conversions) in
/-- The passwords of the users in a listing are kept. -/
theorem listUsersResult_outcomes (hpq : PayloadAlike p q) :
    Outcomes (getPayloadAs pydantic ListUsersResult p) (getPayloadAs pydantic ListUsersResult q)
      (fun m n => (m.modify "listing" (Part.onRecords truncate)).toDict Part.toJson =
        (n.modify "listing" (Part.onRecords truncate)).toDict Part.toJson)
      (ResponseAgrees conversions "Accounts.ListUsers" p q) := by
  refine listing_outcomes (D := fun v w => fieldOf "password" v = fieldOf "password" w) hpq ?_ ?_ ?_
  · intro v w h
    have hread := readRecord_outcomes pydantic (fun _ value => value) (fun name => name = "password" →
        fieldOf "password" v = fieldOf "password" w) user_nodup user_texts
      (fun a _ hget hname => hname ▸ hget) ?_ h
    · simp only [mapAttrs_id] at hread
      exact hread.congr (by simp [User])
    · intro a ha hsecret s t hs ht
      rw [eq_password_of_mem_user a ha hsecret] at hs ht ⊢
      simp [hs, ht]
  · intro hget
    simp [ResponseAgrees, listedPasswords, hget]
  · intro xs ys hp hq hxy
    simp only [ResponseAgrees, listedPasswords, hp, hq, Items.toList_ofList]
    rw [← List.forall₂_eq_eq_eq, List.forall₂_map_left_iff, List.forall₂_map_right_iff]

/-- A listing of objects without secrets. -/
theorem plainListing_outcomes (hnodup : (type.map Prod.fst).Nodup)
    (hplain : ∀ a ∈ type, IsPlain a.1) (hpq : PayloadAlike p q) :
    Outcomes (getPayloadAs pydantic (ListingPayload type) p) (getPayloadAs pydantic (ListingPayload type) q)
      (fun m n => (m.modify "listing" (Part.onRecords truncate)).toDict Part.toJson =
        (n.modify "listing" (Part.onRecords truncate)).toDict Part.toJson) True := by
  refine listing_outcomes (D := fun _ _ => True) hpq
    (fun v w h => readRecord_plain_outcomes hnodup hplain h) (fun _ => trivial) ?_
  intro xs ys _ _ hxy
  exact iff_of_true (List.forall₂_take _ (hxy.imp fun _ _ _ => trivial)) trivial

variable (pydantic) in
/-- **What is logged of a response.** Where a response is read and masked, what is logged is the same exactly if
the secrets that are not replaced agree. -/
theorem responseMask_outcomes {ns : String} {type : PayloadType} {mask : Model Part → Except Exc (Model Part)}
    (hmask : responseMask conversions ns = some (type, mask)) (hpq : PayloadAlike p q) :
    Outcomes (getPayloadAs pydantic type p) (getPayloadAs pydantic type q)
      (fun m n => (mask m).toOption.map (Model.toDict Part.toJson) =
        (mask n).toOption.map (Model.toDict Part.toJson)) (ResponseAgrees conversions ns p q) := by
  unfold responseMask at hmask
  split at hmask
  · cases hmask
    simpa [Except.toOption, ResponseAgrees] using initiateAuthResult_outcomes hpq
  · cases hmask
    simpa [Except.toOption] using respondToAuthChallengeResult_outcomes conversions hpq
  · cases hmask
    exact getUserPrivateKeyResult_outcomes hpq
  · cases hmask
    have hcontent : Outcomes (getPayloadAs pydantic ReadFileResult p) (getPayloadAs pydantic ReadFileResult q)
        (fun m n => (m.setAttr "content" (.scalar (.str "****"))).toDict Part.toJson =
          (n.setAttr "content" (.scalar (.str "****"))).toDict Part.toJson) True := by
      simp only [Model.setAttr]
      refine (replaced_outcomes _ [] (by decide) hpq (by decide) ?_ ?_).congr ?_
      · simp
      · simp [ReadFileResult, texts, secretTexts]
      · simp
    simpa [Except.toOption, ResponseAgrees] using hcontent
  · cases hmask
    simpa [Except.toOption, ResponseAgrees] using tailFileResult_outcomes hpq
  · unfold autoTruncateResponses at hmask
    split at hmask <;> cases hmask
    · simpa [Except.toOption] using listUsersResult_outcomes conversions hpq
    · have hplain : ∀ a ∈ Group, IsPlain a.1 := by decide
      simpa [Except.toOption, ResponseAgrees, ListGroupsResult] using
        plainListing_outcomes (by decide) hplain hpq
    · have hplain : ∀ a ∈ Snapshot, IsPlain a.1 := by decide
      simpa [Except.toOption, ResponseAgrees, ListSnapshotsResult] using
        plainListing_outcomes (by decide) hplain hpq

end Responses

/-! ## The texts -/

variable {conversions} {pydantic : Pydantic} {json : JsonText Json} {i j : Invocation}

/-- Two invocations that differ only in secrets of their payloads. -/
structure InvocationsAlike (i j : Invocation) : Prop where
  request : DictAlike i.request j.request
  response : DictAlike i.response j.response
  tracing : i.isPayloadTracingEnabled = j.isPayloadTracingEnabled

variable (conversions pydantic) in
/-- The secrets in the text of the request agree: those that are not replaced if it is valid, of a masked
namespace and can be read, and else all. -/
def RequestKept (i j : Invocation) : Prop :=
  match i.namespace conversions with
  | none => i.request = j.request
  | some ns =>
    match requestMask ns with
    | none => i.request = j.request
    | some (type, _) =>
      if (validateRequest conversions i).isOk ∧ (getPayloadAs pydantic type i.requestPayload).isOk then
        RequestAgrees ns i.requestPayload j.requestPayload
      else i.request = j.request

variable (conversions pydantic) in
/-- The secrets in the text of the response agree: those that are not replaced in a success of a masked
namespace (without a payload that can be read nothing is logged), and else all. -/
def ResponseKept (i j : Invocation) : Prop :=
  if i.isSuccess then
    match i.namespace conversions with
    | none => i.response = j.response
    | some ns =>
      match responseMask conversions ns with
      | none => i.response = j.response
      | some (type, _) => ∀ p q, getValueAsDict "payload" i.response = some p →
          getValueAsDict "payload" j.response = some q → (getPayloadAs pydantic type p).isOk →
            ResponseAgrees conversions ns p q
  else i.response = j.response

variable {p q : Fields}

theorem RequestAgrees.refl (ns : String) (p : Fields) : RequestAgrees ns p p := by
  unfold RequestAgrees
  split
  · rfl
  · rfl
  · exact .inl rfl
  · trivial

theorem ResponseAgrees.refl (ns : String) (p : Fields) : ResponseAgrees conversions ns p p := by
  unfold ResponseAgrees
  split <;> trivial

theorem DictAlike.get? {r s : Fields} (h : DictAlike r s) {key : String} (hkey : key ≠ "payload") :
    r.get? key = s.get? key := by
  rcases h with rfl | ⟨p, q, -, -, rfl⟩
  · rfl
  · rw [Fields.get?_set_of_ne _ _ hkey]

/-- An object is empty when one that differs only in secrets is. -/
theorem PayloadAlike.getValueAsDict {r s : Fields} (hr : r.get? "payload" = some (.obj p))
    (hs : s.get? "payload" = some (.obj q)) (hpq : PayloadAlike p q) :
    (getValueAsDict "payload" r = none ∧ getValueAsDict "payload" s = none ∧ p = .nil ∧ q = .nil) ∨
      (getValueAsDict "payload" r = some p ∧ getValueAsDict "payload" s = some q) := by
  unfold Payloads.getValueAsDict
  rw [hr, hs]
  cases hpq with
  | nil => exact .inl ⟨rfl, rfl, rfl, rfl⟩
  | cons hvalue hrest => exact .inr ⟨rfl, rfl⟩

/-- The header, and with it the namespace and the validity, is the same. -/
theorem InvocationsAlike.header (h : InvocationsAlike i j) :
    Payloads.getValueAsDict "header" i.request = Payloads.getValueAsDict "header" j.request := by
  unfold Payloads.getValueAsDict
  rw [h.request.get? (by decide)]

theorem InvocationsAlike.namespace (h : InvocationsAlike i j) : i.namespace conversions = j.namespace conversions := by
  rw [Invocation.namespace, h.header, ← Invocation.namespace]

theorem InvocationsAlike.validateRequest (h : InvocationsAlike i j) :
    Payloads.validateRequest conversions i = Payloads.validateRequest conversions j := by
  rw [Payloads.validateRequest, h.header, ← Payloads.validateRequest]

theorem InvocationsAlike.isSuccess (h : InvocationsAlike i j) : i.isSuccess = j.isSuccess := by
  rw [Invocation.isSuccess, h.response.get? (by decide), ← Invocation.isSuccess]

theorem requestPayload_eq (hr : i.request.get? "payload" = some (.obj p))
    (hs : j.request.get? "payload" = some (.obj q)) (hpq : PayloadAlike p q) :
    i.requestPayload = p ∧ j.requestPayload = q := by
  unfold Invocation.requestPayload
  rcases PayloadAlike.getValueAsDict hr hs hpq with ⟨hp, hq, rfl, rfl⟩ | ⟨hp, hq⟩
  · rw [hp, hq]
    exact ⟨rfl, rfl⟩
  · rw [hp, hq]
    exact ⟨rfl, rfl⟩

/-- A dict with another payload is the same exactly if that payload is. -/
theorem withPayload_eq_iff {r s : Fields} (hs : s = r.set "payload" (.obj q)) (m n : Model Part) :
    withPayload r m = withPayload s n ↔ m.toDict Part.toJson = n.toDict Part.toJson := by
  subst hs
  simp [withPayload]

variable (conversions pydantic) in
/-- The request that is logged. -/
def tracedRequest (i : Invocation) : Fields :=
  match Payloads.validateRequest conversions i >>= fun _ => getRequestLoggingPayload conversions pydantic i with
  | .ok (some traced) => traced
  | _ => i.request

theorem requestText_eq (i : Invocation) : requestText conversions pydantic json i =
      if i.isPayloadTracingEnabled then some (json.text (.obj (tracedRequest conversions pydantic i)))
      else none := by
  unfold requestText tracedRequest
  cases i.isPayloadTracingEnabled with
  | false => rfl
  | true =>
    rcases Payloads.validateRequest conversions i >>= fun _ => getRequestLoggingPayload conversions pydantic i with
      e | (_ | traced) <;> rfl

/-- The request is logged as it is when it is invalid, or its namespace is not masked. -/
theorem tracedRequest_of_raw (h : (Payloads.validateRequest conversions i).isOk = false ∨
    (i.namespace conversions).bind requestMask = none) : tracedRequest conversions pydantic i = i.request := by
  unfold tracedRequest
  cases hvalid : Payloads.validateRequest conversions i with
  | error e => rfl
  | ok u =>
    rw [hvalid] at h
    rcases h with h | h
    · cases h
    · simp [getRequestLoggingPayload, h, Bind.bind, Except.bind]

/-- Otherwise it is logged masked if it can be read. -/
theorem tracedRequest_of_mask (hvalid : (Payloads.validateRequest conversions i).isOk = true) {type : PayloadType}
    {mask : Model Part → Model Part} (hmask : (i.namespace conversions).bind requestMask = some (type, mask)) :
    tracedRequest conversions pydantic i = match getPayloadAs pydantic type i.requestPayload with
      | .ok payload => withPayload i.request (mask payload)
      | .error _ => i.request := by
  unfold tracedRequest
  cases hv : Payloads.validateRequest conversions i with
  | error e =>
    rw [hv] at hvalid
    cases hvalid
  | ok u =>
    simp only [getRequestLoggingPayload, hmask, Bind.bind, Except.bind]
    cases getPayloadAs pydantic type i.requestPayload <;> rfl

theorem requestKept_of_eq (h : i.request = j.request) : RequestKept conversions pydantic i j := by
  have hpayload : i.requestPayload = j.requestPayload := by
    rw [Invocation.requestPayload, h, ← Invocation.requestPayload]
  unfold RequestKept
  split
  · exact h
  · split
    · exact h
    · split
      · rw [hpayload]
        exact RequestAgrees.refl _ _
      · exact h

/-- The requests that are logged are the same exactly if the secrets in them are. -/
theorem tracedRequest_eq_iff (h : InvocationsAlike i j) :
    tracedRequest conversions pydantic i = tracedRequest conversions pydantic j ↔
      RequestKept conversions pydantic i j := by
  rcases h.request with heq | ⟨p, q, hp, hpq, hj⟩
  · refine iff_of_true ?_ (requestKept_of_eq heq)
    unfold tracedRequest getRequestLoggingPayload
    rw [← h.namespace, ← h.validateRequest, Invocation.requestPayload, Invocation.requestPayload, heq]
  · obtain ⟨hpi, hqj⟩ := requestPayload_eq hp (by rw [hj, Fields.get?_set_self]) hpq
    have hraw : (Payloads.validateRequest conversions i).isOk = false ∨
        (i.namespace conversions).bind requestMask = none →
        (tracedRequest conversions pydantic i = tracedRequest conversions pydantic j ↔ i.request = j.request) := by
      intro hraw
      rw [tracedRequest_of_raw hraw, tracedRequest_of_raw (by rwa [← h.validateRequest, ← h.namespace])]
    unfold RequestKept
    cases hns : i.namespace conversions with
    | none => exact hraw (.inr (by rw [hns]; rfl))
    | some ns =>
      cases hmask : requestMask ns with
      | none =>
        simp only [hmask]
        exact hraw (.inr (by rw [hns]; exact hmask))
      | some entry =>
        obtain ⟨type, mask⟩ := entry
        simp only [hmask]
        have hbind : (i.namespace conversions).bind requestMask = some (type, mask) := by
          rw [hns]
          exact hmask
        rcases hvalid : (Payloads.validateRequest conversions i).isOk with _ | _
        · simpa [hvalid] using hraw (.inl hvalid)
        · have hvalidj : (Payloads.validateRequest conversions j).isOk = true := by
            rwa [← h.validateRequest]
          rw [tracedRequest_of_mask hvalid hbind, tracedRequest_of_mask hvalidj (by rwa [← h.namespace]), hpi, hqj]
          rcases requestMask_outcomes pydantic hmask hpq with
            ⟨e, e', he, he'⟩ | ⟨m, n, hm, hn, hiff⟩
          · rw [he, he']
            simp [Except.isOk, Except.toBool]
          · rw [hm, hn]
            simpa [Except.isOk, Except.toBool, withPayload_eq_iff hj] using hiff

/-- The text of a request is the same exactly if the secrets in it are. -/
theorem requestText_eq_iff (h : InvocationsAlike i j) :
    requestText conversions pydantic json i = requestText conversions pydantic json j ↔
      (i.isPayloadTracingEnabled = true → RequestKept conversions pydantic i j) := by
  rw [requestText_eq, requestText_eq, ← h.tracing, ← tracedRequest_eq_iff h]
  cases i.isPayloadTracingEnabled with
  | false => simp
  | true => simp

/-- Without a masked namespace, or without a success, the response is logged as it is. -/
theorem responseText_of_raw (h : i.isSuccess = false ∨
    (i.namespace conversions).bind (responseMask conversions) = none) : responseText conversions pydantic json i =
      if i.isPayloadTracingEnabled then some (json.text (.obj i.response)) else none := by
  have htraced : getResponseLoggingPayload conversions pydantic i = .ok none := by
    unfold getResponseLoggingPayload
    rcases h with h | h
    · simp [h]
    · simp [h]
  simp [responseText, htraced]

/-- Otherwise it is logged masked, if it has a payload that can be read and masked. -/
theorem responseText_of_mask (hsuccess : i.isSuccess = true) {type : PayloadType}
    {mask : Model Part → Except Exc (Model Part)}
    (hmask : (i.namespace conversions).bind (responseMask conversions) = some (type, mask)) :
    responseText conversions pydantic json i = if i.isPayloadTracingEnabled then
        (getValueAsDict "payload" i.response).bind fun p =>
          (getPayloadAs pydantic type p).toOption.bind fun m =>
            ((mask m).toOption.map (Model.toDict Part.toJson)).map fun payload =>
              json.text (.obj (i.response.set "payload" (.obj payload)))
      else none := by
  unfold responseText getResponseLoggingPayload
  rw [hmask, if_pos hsuccess]
  cases Payloads.getValueAsDict "payload" i.response with
  | none => simp
  | some p =>
    cases hread : getPayloadAs pydantic type p with
    | error e => simp [Bind.bind, Except.bind, Except.toOption, hread]
    | ok m =>
      cases hm : mask m with
      | error e => simp [Bind.bind, Except.bind, Except.toOption, hread, hm]
      | ok m' => simp [Bind.bind, Except.bind, Except.toOption, hread, hm, withPayload, pure, Except.pure]

theorem responseKept_of_eq (h : i.response = j.response) : ResponseKept conversions pydantic i j := by
  unfold ResponseKept
  split
  · split
    · exact h
    · split
      · exact h
      · intro p q hp hq _
        rw [h, hq] at hp
        rw [Option.some.inj hp]
        exact ResponseAgrees.refl _ _
  · exact h

/-- The text of a response is the same exactly if the secrets in it are. -/
theorem responseText_eq_iff (h : InvocationsAlike i j) :
    responseText conversions pydantic json i = responseText conversions pydantic json j ↔
      (i.isPayloadTracingEnabled = true → ResponseKept conversions pydantic i j) := by
  rcases h.response with heq | ⟨p, q, hp, hpq, hj⟩
  · refine iff_of_true ?_ fun _ => responseKept_of_eq heq
    unfold responseText getResponseLoggingPayload
    rw [← h.tracing, ← h.namespace, ← h.isSuccess, heq]
  · have hraw : i.isSuccess = false ∨
        (i.namespace conversions).bind (responseMask conversions) = none →
        (responseText conversions pydantic json i = responseText conversions pydantic json j ↔
          (i.isPayloadTracingEnabled = true → i.response = j.response)) := by
      intro hraw
      rw [responseText_of_raw hraw, responseText_of_raw (by rwa [← h.isSuccess, ← h.namespace]), ← h.tracing]
      cases i.isPayloadTracingEnabled with
      | false => simp
      | true => simp
    unfold ResponseKept
    rcases hsuccess : i.isSuccess with _ | _
    · simpa using hraw (.inl hsuccess)
    · cases hns : i.namespace conversions with
      | none => simpa using hraw (.inr (by rw [hns]; rfl))
      | some ns =>
        cases hmask : responseMask conversions ns with
        | none => simpa [hmask] using hraw (.inr (by rw [hns]; exact hmask))
        | some entry =>
          obtain ⟨type, mask⟩ := entry
          have hbind : (i.namespace conversions).bind (responseMask conversions) = some (type, mask) := by
            rw [hns]
            exact hmask
          rw [responseText_of_mask hsuccess hbind,
            responseText_of_mask (h.isSuccess ▸ hsuccess) (by rwa [← h.namespace]), ← h.tracing]
          have hq : j.response.get? "payload" = some (.obj q) := by
            rw [hj, Fields.get?_set_self]
          simp only [hmask]
          rcases hpq.getValueAsDict hp hq with ⟨hpi, hqj, -, -⟩ | ⟨hpi, hqj⟩
          · simp [hpi, hqj]
          · rw [hpi, hqj]
            cases i.isPayloadTracingEnabled with
            | false => simp
            | true =>
              have hset : ∀ payload, j.response.set "payload" payload = i.response.set "payload" payload := by
                intro payload
                rw [hj, Fields.set_set]
              have htext : Function.Injective fun payload : Fields =>
                  json.text (.obj (i.response.set "payload" (.obj payload))) := by
                intro f g hfg
                simpa using hfg
              have hagree := (responseMask_outcomes pydantic hmask hpq).bind_toOption_iff
              have hmap : ∀ x : Option (Model Part), (x.bind fun m =>
                  ((mask m).toOption.map (Model.toDict Part.toJson)).map fun payload =>
                    json.text (.obj (i.response.set "payload" (.obj payload)))) =
                  (x.bind fun m => (mask m).toOption.map (Model.toDict Part.toJson)).map fun payload =>
                    json.text (.obj (i.response.set "payload" (.obj payload))) := by
                intro x
                cases x <;> rfl
              simp only [if_true, forall_const, Option.bind_some, Option.some.injEq, hset]
              rw [hmap, hmap, (Option.map_injective htext).eq_iff, hagree]
              exact ⟨fun h _ _ hp hq => hp ▸ hq ▸ h, fun h => h p q rfl rfl⟩

/-- **When payload logs do not depend on secrets.** For two invocations that differ only in secrets of their
payloads, the texts of the requests and of the responses are the same exactly if no payloads are traced, or
the secrets that are not replaced agree. -/
theorem logs_agree_iff (h : InvocationsAlike i j) :
    (requestText conversions pydantic json i = requestText conversions pydantic json j ∧
        responseText conversions pydantic json i = responseText conversions pydantic json j) ↔
      (i.isPayloadTracingEnabled = true →
        RequestKept conversions pydantic i j ∧ ResponseKept conversions pydantic i j) := by
  rw [requestText_eq_iff h, responseText_eq_iff h, ← imp_and]

/-! ## A password that is reset -/

deriving instance Encodable for Json, Items, Fields

/-- Values as they are. -/
def plainPydantic : Pydantic where
  convert _ value := .ok value
  convert_str _ := rfl
  convert_texts _ := rfl

/-- No text is a number. -/
def noNumbers : Conversions where
  str _ := ""
  intOf _ := none
  intOfFloat _ := none

/-- A password that is reset with a code. -/
def resetPassword (password code : String) : Invocation where
  request := .cons "header" (.obj (.cons "namespace" (.str "Auth.ConfirmForgotPassword") .nil))
    (.cons "payload" (.obj (.cons "username" (.str "clara") (.cons "confirmation_code" (.str code)
      (.cons "password" (.str password) .nil)))) .nil)
  response := .cons "success" (.bool true) (.cons "payload" (.obj .nil) .nil)
  isPayloadTracingEnabled := true

theorem resetPassword_alike (password password' code code' : String) :
    InvocationsAlike (resetPassword password code) (resetPassword password' code') where
  request := by
    refine .inr ⟨_, _, rfl, ?_, rfl⟩
    refine .cons (.inl rfl) (.cons (.inr (.inl (.inl ⟨by decide, _, _, rfl, rfl⟩)))
      (.cons (.inr (.inl (.inl ⟨by decide, _, _, rfl, rfl⟩))) .nil))
  response := .inl rfl
  tracing := rfl

/-- What has to agree is the code. -/
theorem requestKept_resetPassword (password password' code code' : String) :
    RequestKept noNumbers plainPydantic (resetPassword password code) (resetPassword password' code') ↔
      some (Json.str code) = some (Json.str code') := by
  have hns : (resetPassword password code).namespace noNumbers = some "Auth.ConfirmForgotPassword" := rfl
  have hvalid : (validateRequest noNumbers (resetPassword password code)).isOk = true := by
    rfl
  have hread : (getPayloadAs plainPydantic ConfirmForgotPasswordRequest
      (resetPassword password code).requestPayload).isOk = true := rfl
  unfold RequestKept
  simp only [hns, requestMask, hvalid, hread, and_self, if_true]
  rfl

/-- The password does not show. -/
theorem logs_agree_resetPassword :
    requestText noNumbers plainPydantic (.ofEncodable Json) (resetPassword "one" "1234") =
        requestText noNumbers plainPydantic (.ofEncodable Json) (resetPassword "two" "1234") ∧
      responseText noNumbers plainPydantic (.ofEncodable Json) (resetPassword "one" "1234") =
        responseText noNumbers plainPydantic (.ofEncodable Json) (resetPassword "two" "1234") := by
  exact (logs_agree_iff (resetPassword_alike _ _ _ _)).mpr fun _ =>
    ⟨(requestKept_resetPassword _ _ _ _).mpr rfl, responseKept_of_eq rfl⟩

/-- **A code in the log.** The code with which a password is reset is logged. -/
theorem confirmation_code_logged : ¬ ∀ i j : Invocation, InvocationsAlike i j →
      requestText noNumbers plainPydantic (.ofEncodable Json) i =
          requestText noNumbers plainPydantic (.ofEncodable Json) j ∧
        responseText noNumbers plainPydantic (.ofEncodable Json) i =
          responseText noNumbers plainPydantic (.ofEncodable Json) j := by
  intro h
  have hkept := (requestText_eq_iff (resetPassword_alike "one" "one" "1234" "5678")).mp
    (h _ _ (resetPassword_alike "one" "one" "1234" "5678")).1 rfl
  have hcode := (requestKept_resetPassword _ _ _ _).mp hkept
  simp at hcode

end ContainRes.Api.Payloads
