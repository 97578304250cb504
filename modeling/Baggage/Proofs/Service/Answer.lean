import Baggage.Proofs.Report.Json
import Baggage.Service.Router
import Mathlib.Data.List.Infix

/-!
# Baggage.Proofs.Service.Answer

**What a posted body is answered with.** The functions behind an endpoint know nothing of requests
and responses: they give a result for a JSON value (`Service.result`). All that stands between them
and a client is how its body is read, and `Service.respond_post_eq` says that there is no more. What
a body is read as is decided by its size, then by the first content type and the blanks, and last by
its bytes (`Request.readBody_of_large`, `Request.readBody_of_unsaid`, `Request.readBody_of_json`).

A client sees a status, two headers and a text. `Service.answerTo` spells these out for both
outcomes of an endpoint's function, and `Service.respond_post` says which bodies get this answer,
and for which value.
-/

namespace Baggage.Service

namespace Request

/-! ### The content type and the blanks -/

/-- Whether a byte may stand in a header that is read as text: it is a visible character of ASCII,
a space or a tab. -/
def IsVisible (byte : UInt8) : Prop := (32 ≤ byte.toNat ∧ byte.toNat < 127) ∨ byte.toNat = 9

/-- Whether a header names the content type. -/
def IsContentType (header : String × List UInt8) : Prop := header.1.toLower = "content-type"

/-- **Whether a body is said to be JSON**: the first header that names a content type can be read as
text, and `json` stands somewhere in it. -/
def SaysJson (r : Request) : Prop :=
  ∃ before header after, r.headers = before ++ header :: after ∧
    (∀ other ∈ before, ¬ IsContentType other) ∧ IsContentType header ∧
    (∀ byte ∈ header.2, IsVisible byte) ∧ "json".toUTF8.data.toList <:+: header.2

/-- Whether a body consists of blanks of ASCII alone: tabs, line feeds, form feeds, carriage returns
and spaces. -/
def IsBlank (r : Request) : Prop := ∀ byte ∈ r.body.data, byte ∈ [9, 10, 12, 13, 32]

theorem isVisible_iff {byte : UInt8} : isVisible byte = true ↔ IsVisible byte := by
  simp [isVisible, IsVisible]

theorem hasWord_iff {word text : List Char} : hasWord word text = true ↔ word <:+: text := by
  induction text with
  | nil => simp [hasWord]
  | cons c rest ih =>
    rw [hasWord, Bool.or_eq_true, ih, List.isPrefixOf_iff_prefix, List.infix_cons_iff]

theorem charOf_injective : Function.Injective fun byte : UInt8 => Char.ofNat byte.toNat := by
  have toNat_charOf (byte : UInt8) : (Char.ofNat byte.toNat).toNat = byte.toNat := by
    have hvalid : byte.toNat.isValidChar := .inl (by have := byte.toNat_lt; omega)
    rw [Char.ofNat, dif_pos hvalid]
    rfl
  intro a b hab
  have hnat : (Char.ofNat a.toNat).toNat = (Char.ofNat b.toNat).toNat := congrArg Char.toNat hab
  rw [toNat_charOf, toNat_charOf] at hnat
  exact UInt8.toNat_inj.mp hnat

/-- A word stands in the characters of a header exactly where its bytes stand in the header. -/
theorem infix_map_charOf_iff {word value : List UInt8} :
    (word.map fun byte => Char.ofNat byte.toNat) <:+: (value.map fun byte => Char.ofNat byte.toNat)
      ↔ word <:+: value := by
  constructor
  · intro h
    obtain ⟨found, hfound, heq⟩ := List.infix_map_iff.mp h
    rwa [List.map_injective_iff.mpr charOf_injective heq]
  · exact fun h => h.map _

theorem contentType?_eq_some_iff {r : Request} {text : List Char} :
    r.contentType? = some text ↔
      ∃ header, (r.headers.find? fun header => header.1.toLower == "content-type") = some header ∧
        (∀ byte ∈ header.2, IsVisible byte) ∧
        header.2.map (fun byte => Char.ofNat byte.toNat) = text := by
  simp only [contentType?, headerText?, Option.bind_eq_bind, Option.bind_eq_some_iff,
    Option.ite_none_right_eq_some, List.all_eq_true, isVisible_iff, Option.some.injEq]

theorem isJson_iff {r : Request} : r.isJson = true ↔ r.SaysJson := by
  -- the word is looked for among the characters, but `SaysJson` is about the bytes
  have hword : ['j', 's', 'o', 'n']
      = "json".toUTF8.data.toList.map fun byte => Char.ofNat byte.toNat := by rfl
  simp only [isJson, Option.any_eq_true, contentType?_eq_some_iff, hasWord_iff,
    List.find?_eq_some_iff_append, beq_iff_eq, Bool.not_eq_true', beq_eq_false_iff_ne]
  constructor
  · rintro ⟨text, ⟨header, ⟨hnames, before, after, hheaders, hbefore⟩, hvisible, rfl⟩, hinfix⟩
    rw [hword, infix_map_charOf_iff] at hinfix
    exact ⟨before, header, after, hheaders, hbefore, hnames, hvisible, hinfix⟩
  · rintro ⟨before, header, after, hheaders, hbefore, hnames, hvisible, hinfix⟩
    rw [← infix_map_charOf_iff, ← hword] at hinfix
    exact ⟨_, ⟨header, ⟨hnames, before, after, hheaders, hbefore⟩, hvisible, rfl⟩, hinfix⟩

theorem isBlankByte_iff {byte : UInt8} :
    isBlankByte byte = true ↔ byte ∈ ([9, 10, 12, 13, 32] : List UInt8) := by
  simp [isBlankByte, ← UInt8.toNat_inj]

theorem isBlank_iff {r : Request} : r.body.data.all isBlankByte = true ↔ r.IsBlank := by
  simp only [IsBlank, Array.all_eq_true_iff_forall_mem, isBlankByte_iff]

theorem unsaid_iff {r : Request} :
    (!r.isJson || r.body.data.all isBlankByte) = true ↔ ¬ r.SaysJson ∨ r.IsBlank := by
  rw [Bool.or_eq_true, Bool.not_eq_true', ← Bool.not_eq_true, isJson_iff, isBlank_iff]

/-! ### What a body is read as -/

variable {r : Request}

theorem readBody_of_large (hsize : bodyLimit < r.body.size) : r.readBody = .error .tooLarge := by
  rw [readBody, if_pos hsize]

theorem readBody_of_unsaid (hsize : r.body.size ≤ bodyLimit) (h : ¬ r.SaysJson ∨ r.IsBlank) :
    r.readBody = .ok .empty := by
  rw [readBody, if_neg (by omega), if_pos (unsaid_iff.mpr h)]

theorem readBody_of_json (hsize : r.body.size ≤ bodyLimit) (hjson : r.SaysJson)
    (hblank : ¬ r.IsBlank) : r.readBody = (Json.parseBytes r.body).mapError .malformed := by
  have hsaid : ¬ (¬ r.SaysJson ∨ r.IsBlank) := fun h => h.elim (· hjson) hblank
  rw [readBody, if_neg (by omega), if_neg (mt unsaid_iff.mp hsaid)]
  cases Json.parseBytes r.body <;> rfl

/-- The bytes of a text are read just as the text itself. -/
theorem parseBytes_toUTF8 (text : String) : Json.parseBytes text.toUTF8 = Json.parse text := by
  have hbytes : String.fromUTF8? text.toUTF8 = some text := dif_pos text.isValidUTF8
  rw [Json.parseBytes, hbytes]

end Request

/-! ### From a body to its answer -/

/-- **The result of an endpoint on a JSON value**, without requests and responses. -/
def result (service : Service) (value : Json) : Endpoint → Except Failure Json
  | .simplex => (solve service.solver value).result.map (·.toJson)
  | .charge => (charge service.fares value).map (·.toJson)
  | .health => .ok healthJson

/-- A response with a JSON text, which pages from anywhere may read. -/
def told (status : ℕ) (text : String) : Response :=
  ⟨status, [("content-type", "application/json"), ("access-control-allow-origin", "*")], text⟩

/-- A response that tells a wording and nothing else. -/
def refusal (status : ℕ) (wording : String) : Response :=
  told status (Json.oneLine [("message", Json.quote wording)])

/-- **What an endpoint answers to a JSON value**: its result under the status 200, spelled out on
one line, or the wording of its failure under the status of that failure. -/
def answerTo (service : Service) (value : Json) : Endpoint → Response
  | .simplex =>
    match (solve service.solver value).result with
    | .ok solution => told 200 solution.line
    | .error failure => refusal failure.status failure.message
  | .charge =>
    match charge service.fares value with
    | .ok quote => told 200 quote.line
    | .error failure => refusal failure.status failure.message
  | .health => told 200 (Json.oneLine [("status", "\"healthy\""), ("version", "\"0.1.0\"")])

/-- A request whose body is handed to an endpoint. -/
structure PostsTo (r : Request) (e : Endpoint) : Prop where
  /-- The body is posted. -/
  method : r.method = "POST"
  /-- The path is that of the endpoint. -/
  path : r.path = e.path
  /-- The endpoint takes bodies. -/
  takesBody : e ≠ .health

variable {service : Service} {r : Request} {e : Endpoint}

theorem ofPath?_path (e : Endpoint) : Endpoint.ofPath? e.path = some e := by
  cases e <;> decide

theorem handle_result (result : Json → Logged Float (Except Failure Json)) :
    (handle r result).result = resultResponse
      ((r.readBody.mapError .unreadable).bind fun value => (result value).result) := by
  rw [handle]
  cases r.readBody <;> rfl

/-- **A posted body is read, and the endpoint's result on the value is answered.** -/
theorem respond_post_eq (h : PostsTo r e) :
    (service.respond r).result
      = resultResponse
          ((r.readBody.mapError .unreadable).bind fun value => service.result value e) := by
  have hserve : (service.route r).result = (service.serve r e).result := by
    have hposts : e.methods.contains r.method = true := by
      rw [h.method]
      cases e with
      | simplex => decide
      | charge => decide
      | health => exact absurd rfl h.takesBody
    rw [route, h.path, ofPath?_path]
    exact congrArg Logged.result (if_pos hposts)
  have hresult : (service.serve r e).result = resultResponse
      ((r.readBody.mapError .unreadable).bind fun value => service.result value e) := by
    cases e with
    | simplex => exact handle_result _
    | charge => exact handle_result _
    | health => exact absurd rfl h.takesBody
  have hoptions : (r.method == "OPTIONS") = false := by
    rw [h.method]
    decide
  rw [← hresult, ← hserve, respond, hoptions]
  cases isReported r.path <;> rfl

/-! ### The answer, spelled out -/

theorem jsonResponse_eq_refusal (status : ℕ) (wording : String) :
    jsonResponse status (.object [("message", .string wording)]) = refusal status wording := by
  have hplain : ∀ field ∈ [("message", Json.string wording)], Json.IsPlain field.1 :=
    List.forall_mem_singleton.mpr (by decide : Json.IsPlain "message")
  rw [jsonResponse, Json.compact_object hplain]
  simp [refusal, told, jsonType, anyOrigin, Json.compact]

/-- A failure is answered with its status and its wording. -/
theorem resultResponse_error (failure : Failure) :
    resultResponse (.error failure) = refusal failure.status failure.message :=
  jsonResponse_eq_refusal _ _

/-- The response to a result is the answer of the endpoint. -/
theorem resultResponse_result (service : Service) (value : Json) (e : Endpoint) :
    resultResponse (service.result value e) = service.answerTo value e := by
  cases e with
  | simplex =>
    rw [result, answerTo]
    cases (solve service.solver value).result with
    | ok solution => exact congrArg (told 200) solution.compact_toJson
    | error failure => exact resultResponse_error failure
  | charge =>
    rw [result, answerTo]
    cases charge service.fares value with
    | ok quote => exact congrArg (told 200) quote.compact_toJson
    | error failure => exact resultResponse_error failure
  | health =>
    show jsonResponse 200 healthJson = told 200 _
    decide +kernel

/-- Any response but a success has the wording of a failure for its body, and nothing else. -/
theorem resultResponse_of_status_ne {result : Except Failure Json}
    (h : (resultResponse result).status ≠ 200) :
    ∃ wording, resultResponse result = refusal (resultResponse result).status wording := by
  cases result with
  | ok body => exact absurd rfl h
  | error failure => exact ⟨failure.message, resultResponse_error failure⟩

/-- **What a posted body is answered with.** A body that is too large is refused, whatever its
content type. Of the others, one that is not said to be JSON or that is blank is answered as the
empty object, so that all of them get one answer; one whose bytes are a JSON value is answered with
the endpoint's result on that value; and any other is refused with the reason. No answer but a
success tells more than a wording. -/
theorem respond_post (h : PostsTo r e) :
    (2097152 < r.body.size → (service.respond r).result
      = refusal 400 "Invalid request body: Failed to buffer the request body") ∧
    (r.body.size ≤ 2097152 →
      (¬ r.SaysJson ∨ r.IsBlank →
        (service.respond r).result = service.answerTo (.object []) e ∧
        ∀ other : Request, PostsTo other e → other.body.size ≤ 2097152 →
          (¬ other.SaysJson ∨ other.IsBlank) →
          (service.respond other).result = (service.respond r).result) ∧
      (r.SaysJson → ¬ r.IsBlank →
        (∀ value, Json.parseBytes r.body = .ok value →
          (service.respond r).result = service.answerTo value e) ∧
        (∀ error, Json.parseBytes r.body = .error error →
          ∃ reason, (service.respond r).result = refusal 400 ("Invalid JSON body: " ++ reason)))) ∧
    ((service.respond r).result.status ≠ 200 →
      ∃ wording, (service.respond r).result
        = refusal (service.respond r).result.status wording) := by
  have hread {r : Request} (h : PostsTo r e) {value : Json} (hvalue : r.readBody = .ok value) :
      (service.respond r).result = service.answerTo value e := by
    rw [respond_post_eq h, hvalue]
    exact resultResponse_result service value e
  have hunsaid {r : Request} (h : PostsTo r e) (hsize : r.body.size ≤ 2097152)
      (hr : ¬ r.SaysJson ∨ r.IsBlank) :
      (service.respond r).result = service.answerTo (.object []) e :=
    hread h (Request.readBody_of_unsaid hsize hr)
  refine ⟨?_, ?_, ?_⟩
  · intro hsize
    rw [respond_post_eq h, Request.readBody_of_large hsize]
    exact resultResponse_error (.unreadable .tooLarge)
  · intro hsize
    refine ⟨fun hr => ⟨hunsaid h hsize hr, ?_⟩, fun hjson hblank => ⟨?_, ?_⟩⟩
    · intro other hother hsizeOther hrOther
      rw [hunsaid hother hsizeOther hrOther, hunsaid h hsize hr]
    · intro value hvalue
      refine hread h ?_
      rw [Request.readBody_of_json hsize hjson hblank, hvalue]
      rfl
    · intro error herror
      refine ⟨error.message, ?_⟩
      rw [respond_post_eq h, Request.readBody_of_json hsize hjson hblank, herror]
      exact resultResponse_error (.unreadable (.malformed error))
  · intro hstatus
    rw [respond_post_eq h] at hstatus ⊢
    exact resultResponse_of_status_ne hstatus

/-- An opened object, posted to be priced under two content types, of which the second alone is
said to be JSON. -/
def unsaidPost : Request :=
  { method := "POST"
    target := "/api/calculate-luggage-charge?class=economy"
    headers := [("Accept", "*/*".toUTF8.data.toList),
      ("Content-Type", "text/plain".toUTF8.data.toList),
      ("content-type", "application/json".toUTF8.data.toList)]
    body := "\x7b".toUTF8 }

/-- A weight above the limit of its class, posted to be priced. -/
def pricedText : String := "\x7b\"luggageWeight\": 25, \"travelClass\": \"ECONOMY\"\x7d"

/-- The request with this text. -/
def pricedPost : Request :=
  { method := "POST"
    target := "/api/calculate-luggage-charge"
    headers := [("content-type", "application/json; charset=utf-8".toUTF8.data.toList)]
    body := pricedText.toUTF8 }

/-- The answer to this request. -/
def pricedAnswer : Response :=
  { status := 200
    headers := [("content-type", "application/json"), ("access-control-allow-origin", "*")]
    body := "\x7b\"travelClass\":\"ECONOMY\",\"luggageWeight\":25.0,\"weightLimit\":20.0,"
      ++ "\"isExcess\":true,\"excessWeight\":5.0,\"baseFare\":10000.0,\"excessCharge\":7500.0,"
      ++ "\"totalFare\":17500.0,\"message\":\"Warning: Luggage weight (25kg) exceeds ECONOMY "
      ++ "class limit of 20kg. Extra charge of ₹7,500 applies.\",\"weightLimitMessage\":\"Maximum "
      ++ "allowed weight for ECONOMY class is 20kg\",\"breakdown\":\x7b\"baseFare\":\"₹10,000\","
      ++ "\"excessCharge\":\"₹7,500\",\"totalFare\":\"₹17,500\"\x7d\x7d" }

/-- A closed computation that succeeds with a result that passes a test. -/
theorem exists_ok_of_any {α ε : Type} (x : Except ε α) (test : α → Bool)
    (h : x.toOption.any test = true) : ∃ a, x = .ok a ∧ test a = true := by
  cases x with
  | error e => cases h
  | ok a => exact ⟨a, rfl, h⟩

/-- One post is answered as the empty object would be, with a wording, and the other with its fare.
-/
theorem respond_post_unsaid_priced :
    (PostsTo unsaidPost .charge ∧ unsaidPost.body.size ≤ 2097152 ∧
      (¬ unsaidPost.SaysJson ∨ unsaidPost.IsBlank) ∧
      ((ofSettings .standard).respond unsaidPost).result
        = ⟨400, [("content-type", "application/json"), ("access-control-allow-origin", "*")],
          "\x7b\"message\":\"Invalid luggage weight\"\x7d"⟩) ∧
    (PostsTo pricedPost .charge ∧ pricedPost.body.size ≤ 2097152 ∧ pricedPost.SaysJson ∧
      ¬ pricedPost.IsBlank ∧ (∃ value, Json.parseBytes pricedPost.body = .ok value) ∧
      ((ofSettings .standard).respond pricedPost).result = pricedAnswer) := by
  have hunsaidPosts : PostsTo unsaidPost .charge := ⟨rfl, by decide +kernel, by decide⟩
  have hunsaidSize : unsaidPost.body.size ≤ 2097152 := by decide +kernel
  have hunsaid : ¬ unsaidPost.SaysJson := by
    rw [← Request.isJson_iff]
    decide +kernel
  have hposts : PostsTo pricedPost .charge := ⟨rfl, by decide +kernel, by decide⟩
  have hsize : pricedPost.body.size ≤ 2097152 := by decide +kernel
  have hjson : pricedPost.SaysJson := Request.isJson_iff.mp (by decide +kernel)
  have hblank : ¬ pricedPost.IsBlank := by
    rw [← Request.isBlank_iff]
    decide +kernel
  obtain ⟨value, htext, hanswer⟩ := exists_ok_of_any (Json.parse pricedText)
    (fun value => (ofSettings .standard).answerTo value .charge == pricedAnswer) (by decide +kernel)
  have hvalue : Json.parseBytes pricedPost.body = .ok value :=
    (Request.parseBytes_toUTF8 pricedText).trans htext
  refine ⟨⟨hunsaidPosts, hunsaidSize, .inl hunsaid, ?_⟩,
    hposts, hsize, hjson, hblank, ⟨value, hvalue⟩, ?_⟩
  · rw [((respond_post hunsaidPosts).2.1 hunsaidSize |>.1 (.inl hunsaid)).1]
    decide +kernel
  · rw [((respond_post hposts).2.1 hsize |>.2 hjson hblank).1 value hvalue]
    exact beq_iff_eq.mp hanswer

end Baggage.Service
