import NameRoles.Proofs.Client

/-!
# Rules listed through a service

A client of a service lists the rules that the store behind it lists. A store that fails is heard of
through the reply: the client's fault names the status and carries the text of the store's fault in
a form from which it can be read (`listRules_as_stored`).
-/

namespace NameRoles.Client

open Http Json

variable {client : Client}

/-! ## What the service sends -/

/-- A reply with the text of a fault, as it is sent. -/
def faultBody (text : String) : String := write (.object [("error", .string text)])

theorem read?_faultBody (text : String) :
    read? (faultBody text) = some (.object [("error", .string text)]) :=
  read?_write (by simp)

/-- The text of such a reply is its whole body, since a brace is no mark of byte order. -/
theorem text_faultBody (status : Nat) (text : String) :
    Response.text ⟨status, faultBody text⟩ = faultBody text := by
  have hbody : (faultBody text).toList =
      '{' :: (writeMembers [("error", .string text)] ++ ['}']) := by
    rw [faultBody, write, String.toList_ofList]
    rfl
  rw [Response.text]
  split
  next h => simp [hbody] at h
  next => rfl

/-! ## What the client makes of it -/

theorem listRules_of_rules (hroot : client.base.path = "/") (rules : List Rule) :
    client.listRules (.toService (.ok rules)) = .ok rules := by
  obtain ⟨request, hfetch⟩ :=
    fetch_toService hroot .rules rfl rulesPath (by decide) Rule.decodeAll (.ok rules)
  have hbody : (Api.Endpoint.rules.reply (.ok rules) request).toResponse =
      ⟨200, write (.array (rules.map Rule.toJson))⟩ := rfl
  rw [listRules, hfetch, hbody, read, if_pos (by rfl),
    decode_write (Rule.plain_array_toJson rules), Rule.decodeAll_ofJson]

theorem listRules_of_fault (hroot : client.base.path = "/") (fault : RuleError) :
    client.listRules (.toService (.error fault)) =
      .error (.api client.base.text ("503 Service Unavailable: " ++ faultBody fault.message)) := by
  obtain ⟨request, hfetch⟩ :=
    fetch_toService hroot .rules rfl rulesPath (by decide) Rule.decodeAll (.error fault)
  have hbody : (Api.Endpoint.rules.reply (.error fault) request).toResponse =
      ⟨503, faultBody fault.message⟩ := rfl
  have hstatus : statusText 503 ++ ": " = "503 Service Unavailable: " := by decide +kernel
  rw [listRules, hfetch, hbody, read, if_neg (by simp [Response.isSuccess]),
    text_faultBody, ← hstatus]
  rfl

/-- A client at the root of a service lists the rules that the store lists, all of them as they are
and in their order. If the store fails, the client's fault has the client's base for its source, and
the body in its message is JSON that holds the text of the store's fault and nothing else. -/
theorem listRules_as_stored (hroot : client.base.path = "/") :
    (∀ rules, client.listRules (.toService (.ok rules)) = .ok rules) ∧
    ∀ fault : RuleError, ∃ body,
      client.listRules (.toService (.error fault)) =
        .error (.api client.base.text ("503 Service Unavailable: " ++ body)) ∧
      body = write (.object [("error", .string fault.message)]) ∧
      read? body = some (.object [("error", .string fault.message)]) :=
  ⟨listRules_of_rules hroot, fun fault => ⟨faultBody fault.message, listRules_of_fault hroot fault,
    rfl, read?_faultBody fault.message⟩⟩

/-- An ill-formed rule is listed like any other, and a text with quotes comes back as it was. -/
theorem listRules_as_stored_atHome :
    let rule : Rule := ⟨uniformId 5, uniformId 6, "Türen", "\n", "AND ("⟩
    let fault : RuleError := .store "no \"rules\""
    atHome.base.path = "/" ∧
      atHome.listRules (.toService (.ok [rule, doorRule])) = .ok [rule, doorRule] ∧
      atHome.listRules (.toService (.error fault)) =
        .error (.api "http://localhost:8080/" ("503 Service Unavailable: " ++
          "\x7b\"error\":\"Rule store error: no \\\"rules\\\"\"\x7d")) := by
  intro rule fault
  have hroot : atHome.base.path = "/" := rfl
  obtain ⟨hrules, hfaults⟩ := listRules_as_stored hroot
  obtain ⟨body, hfault, rfl, -⟩ := hfaults fault
  have hsource : atHome.base.text = "http://localhost:8080/" := by decide +kernel
  have hbody : write (.object [("error", .string fault.message)]) =
      "\x7b\"error\":\"Rule store error: no \\\"rules\\\"\"\x7d" := by decide +kernel
  exact ⟨hroot, hrules _, hsource ▸ hbody ▸ hfault⟩

end NameRoles.Client
