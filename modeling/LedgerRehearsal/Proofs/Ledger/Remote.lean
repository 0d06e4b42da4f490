import LedgerRehearsal.Ledger.Remote
import LedgerRehearsal.Proofs.Result

/-! What the responses of a remote ledger mean. A response is told from others by its status, by
whether its body is blank or JSON, and by the kind of its value; every request is answered by the same
reading of its one response, and looking up a transaction is a query like any other. -/
namespace LedgerRehearsal

open Json

/-- Nothing but blank characters, those included that JSON does not skip. -/
def Text.OnlyBlank (text : String) : Prop := ∀ c ∈ text.toList, isBlank c = true

theorem Text.allBlank_iff {text : String} : allBlank text = true ↔ OnlyBlank text :=
  List.all_eq_true

instance : DecidablePred Text.OnlyBlank := fun _ => decidable_of_iff _ Text.allBlank_iff

namespace Json

variable {cs : List Char}

theorem isDigit_of_isBlank {c : Char} (blank : Text.isBlank c = true) : c.isDigit = false := by
  by_contra digit
  have bounds : 48 ≤ c.toNat ∧ c.toNat ≤ 57 :=
    Char.isDigit_iff_toNat.mp (Bool.not_eq_false _ ▸ digit)
  simp [Text.isBlank,Text.blankRanges] at blank
  omega

theorem readNumber_onlyBlank (blank : ∀ c ∈ cs, Text.isBlank c = true) : readNumber cs = none := by
  cases cs with
  | nil => rfl
  | cons c cs =>
    have first := (List.forall_mem_cons.mp blank).1
    have sign : readSign (c :: cs) = (false,c :: cs) := by
      unfold readSign
      split
      · rename_i same
        obtain ⟨rfl,-⟩ := List.cons.inj same
        contradiction
      · rfl
    have none : readWhole (c :: cs) = none := by
      simp [readWhole,readDigits,spanDigits,isDigit_of_isBlank first]
    simp [readNumber,sign,none]

/-- No value begins with a blank character that JSON does not skip. -/
theorem readValue_onlyBlank {depth : Nat} (blank : ∀ c ∈ cs, Text.isBlank c = true) :
    readValue depth cs = none := by
  have rest : ∀ c ∈ skipSpace cs, Text.isBlank c = true := fun c member =>
    blank c ((List.dropWhile_sublist isSpace).mem member)
  have first {c : Char} {after : List Char} (begins : skipSpace cs = c :: after) :
      Text.isBlank c = true := rest c (begins ▸ List.mem_cons_self)
  unfold readValue
  split
  · exact absurd (first ‹_›) (by decide)
  · exact absurd (first ‹_›) (by decide)
  · exact absurd (first ‹_›) (by decide)
  · exact absurd (first ‹_›) (by decide)
  · exact absurd (first ‹_›) (by decide)
  · exact absurd (first ‹_›) (by decide)
  · rw [readNumber_onlyBlank rest]
    rfl

theorem parse_onlyBlank {text : String} (blank : Text.OnlyBlank text) : parse text = none := by
  rw [parse,readValue_onlyBlank blank]

end Json

namespace HttpResponse

variable {response : HttpResponse} {value : Value}

/-- A status between 200 and 299. -/
def Succeeds (response : HttpResponse) : Prop := 200 ≤ response.status ∧ response.status ≤ 299

instance : Decidable response.Succeeds := inferInstanceAs (Decidable (_ ∧ _))

/-- The value of a body. -/
inductive Holds (response : HttpResponse) : Value → Prop where
  | blank : Text.OnlyBlank response.body → Holds response .null
  | json {value : Value} : parse response.body = some value → Holds response value

theorem isSuccess_iff : response.isSuccess = true ↔ response.Succeeds := by
  simp only [isSuccess,Succeeds,Bool.and_eq_true,decide_eq_true_eq]
  omega

variable [Diagnostics]

theorem value_rejected (failed : ¬ response.Succeeds) :
    response.value = .error (.rejected response.status response.body) := by
  rw [← isSuccess_iff,Bool.not_eq_true] at failed
  simp [value,failed]

theorem value_blank (succeeds : response.Succeeds) (blank : Text.OnlyBlank response.body) :
    response.value = .ok .null := by
  simp [value,isSuccess_iff.mpr succeeds,Text.allBlank_iff.mpr blank]

theorem value_filled (succeeds : response.Succeeds) (filled : ¬ Text.OnlyBlank response.body) :
    response.value = match parse response.body with
      | some value => .ok value
      | none => .error (.invalidResponse s!"{Diagnostics.json response.body} (body: {response.body})") := by
  rw [← Text.allBlank_iff,Bool.not_eq_true] at filled
  simp only [value,isSuccess_iff.mpr succeeds,filled]
  cases parse response.body <;> rfl

theorem value_garbled (succeeds : response.Succeeds) (filled : ¬ Text.OnlyBlank response.body)
    (malformed : parse response.body = none) :
    response.value = .error (.invalidResponse s!"{Diagnostics.json response.body} (body: {response.body})") := by
  rw [value_filled succeeds filled,malformed]

theorem value_eq_ok : response.value = .ok value ↔ response.Succeeds ∧ response.Holds value := by
  constructor
  · intro given
    by_cases succeeds : response.Succeeds
    · refine ⟨succeeds,?_⟩
      by_cases blank : Text.OnlyBlank response.body
      · rw [value_blank succeeds blank] at given
        exact Except.ok.inj given ▸ .blank blank
      · rw [value_filled succeeds blank] at given
        split at given
        · rename_i found
          exact Except.ok.inj given ▸ .json found
        · contradiction
    · rw [value_rejected succeeds] at given
      contradiction
  · rintro ⟨succeeds,blank | found⟩
    · exact value_blank succeeds blank
    · have filled : ¬ Text.OnlyBlank response.body := fun blank =>
        nomatch (parse_onlyBlank blank).symm.trans found
      rw [value_filled succeeds filled,found]

end HttpResponse

namespace Request

/-- What the value of a successful response answers. -/
inductive Answers : (request : Request) → Value → request.Reply → Prop where
  | healthy (value : Value) : Answers .health value (.ok ())
  | created (database : DatabaseId) (value : Value) :
      Answers (.createDatabase database) value (.ok ())
  | submitted (connection : Connection) (transaction : Value) (tx : String) :
      Answers (.submit connection transaction) (.string tx) (.ok tx)
  | unidentified (connection : Connection) (transaction : Value) {value : Value} :
      (∀ tx, value ≠ .string tx) → Answers (.submit connection transaction) value
        (.error (.invalidResponse s!"expected a transaction id, got {value.compact}"))
  | committed (connection : Connection) (transaction value : Value) :
      Answers (.submitAndWait connection transaction) value (.ok value)
  | items (connection : Connection) (asked : Value) (items : List Value) :
      Answers (.query connection asked) (.list items) (.ok items)
  | nothing (connection : Connection) (asked : Value) :
      Answers (.query connection asked) .null (.ok [])
  | alone (connection : Connection) (asked : Value) {value : Value} :
      (∀ items, value ≠ .list items) → value ≠ .null →
        Answers (.query connection asked) value (.ok [value])
  | found (connection : Connection) (tx : TxId) {value : Value}
      {reply : (query connection (lookupQuery tx)).Reply} :
      Answers (.query connection (lookupQuery tx)) value reply →
        Answers (.lookup connection tx) value reply

/-- What a response means for a request. -/
inductive Means [Diagnostics] (request : Request) (response : HttpResponse) : request.Reply → Prop where
  | rejected : ¬ response.Succeeds →
      Means request response (.error (.rejected response.status response.body))
  | garbled : response.Succeeds → ¬ Text.OnlyBlank response.body → parse response.body = none →
      Means request response
        (.error (.invalidResponse s!"{Diagnostics.json response.body} (body: {response.body})"))
  | answered {value : Value} {reply : request.Reply} : response.Succeeds → response.Holds value →
      Answers request value reply → Means request response reply

variable {request : Request} {response : HttpResponse} {value : Value}

theorem answers_query (connection : Connection) (asked value : Value) :
    Answers (.query connection asked) value (.ok (records value)) := by
  cases value with
  | list items => exact .items connection asked items
  | null => exact .nothing connection asked
  | bool | number | string | object => exact .alone connection asked nofun nofun

theorem answers_answerOf (asks : ∀ connection, request ≠ .connect connection) (value : Value) :
    Answers request value (request.answerOf value) := by
  cases request with
  | health => exact .healthy value
  | createDatabase database => exact .created database value
  | connect connection => exact absurd rfl (asks connection)
  | submit connection transaction =>
    cases value with
    | string tx => exact .submitted connection transaction tx
    | null | bool | number | list | object => exact .unidentified connection transaction nofun
  | submitAndWait connection transaction => exact .committed connection transaction value
  | query connection asked => exact answers_query connection asked value
  | lookup connection tx => exact .found connection tx (answers_query connection _ value)

theorem Answers.eq_answerOf {reply : request.Reply} (answers : Answers request value reply) :
    reply = request.answerOf value := by
  induction answers with
  | healthy | created | submitted | committed | items | nothing => rfl
  | @unidentified connection transaction value other =>
    cases value with
    | string tx => exact absurd rfl (other tx)
    | null | bool | number | list | object => rfl
  | @alone connection asked value other filled =>
    cases value with
    | list items => exact absurd rfl (other items)
    | null => exact absurd rfl filled
    | bool | number | string | object => rfl
  | found connection tx _ ih => exact ih

variable [Diagnostics]

theorem interpret_of_ok (given : response.value = .ok value) :
    request.interpret response = request.answerOf value := by
  rw [interpret,given]
  rfl

theorem interpret_of_error {error : LedgerError} (failed : response.value = .error error) :
    request.interpret response = .error error := by
  rw [interpret,failed]
  rfl

theorem means_interpret (asks : ∀ connection, request ≠ .connect connection)
    (response : HttpResponse) : Means request response (request.interpret response) := by
  by_cases succeeds : response.Succeeds
  · cases given : response.value with
    | ok value =>
      rw [interpret_of_ok given]
      exact .answered succeeds (HttpResponse.value_eq_ok.mp given).2 (answers_answerOf asks value)
    | error error =>
      have valueless (value : Value) : ¬ response.Holds value := fun holds =>
        nomatch (HttpResponse.value_eq_ok.mpr ⟨succeeds,holds⟩).symm.trans given
      have filled : ¬ Text.OnlyBlank response.body := fun blank => valueless .null (.blank blank)
      have malformed : parse response.body = none :=
        Option.eq_none_iff_forall_not_mem.mpr fun value found => valueless value (.json found)
      rw [interpret_of_error (HttpResponse.value_garbled succeeds filled malformed)]
      exact .garbled succeeds filled malformed
  · rw [interpret_of_error (HttpResponse.value_rejected succeeds)]
    exact .rejected succeeds

/-- Every response means one reply, and that is the reply that it is read as. -/
theorem interpret_eq_iff (asks : ∀ connection, request ≠ .connect connection)
    {reply : request.Reply} :
    request.interpret response = reply ↔ Means request response reply := by
  constructor
  · rintro rfl
    exact means_interpret asks response
  · intro means
    cases means with
    | rejected failed => exact interpret_of_error (HttpResponse.value_rejected failed)
    | garbled succeeds filled malformed =>
      exact interpret_of_error (HttpResponse.value_garbled succeeds filled malformed)
    | answered succeeds holds answers =>
      rw [answers.eq_answerOf]
      exact interpret_of_ok (HttpResponse.value_eq_ok.mpr ⟨succeeds,holds⟩)

end Request

namespace RemoteLedger

open Request

variable {m : Type → Type} [Monad m] {ledger : RemoteLedger} {request : Request}
  {delivery : Delivery}

theorem exists_toHttp?_iff :
    (∃ message, request.toHttp? = some message) ↔ ∀ connection, request ≠ .connect connection := by
  constructor
  · rintro ⟨message,known⟩ connection rfl
    contradiction
  · intro asks
    cases request with
    | connect connection => exact absurd rfl (asks connection)
    | health | createDatabase | submit | submitAndWait | query | lookup => exact ⟨_,rfl⟩

section

variable [Diagnostics]

/-- A request goes to the server as this delivery. -/
def Sends (ledger : RemoteLedger) (request : Request) (delivery : Delivery) : Prop :=
  ∃ message, request.toHttp? = some message ∧ ledger.delivery request message = .ok delivery

theorem asks_of_sends (sends : ledger.Sends request delivery) (connection : Connection) :
    request ≠ .connect connection := by
  rintro rfl
  obtain ⟨_,⟨⟩,-⟩ := sends

/-- What is read of an exchange. -/
def readingOf (request : Request) : Except String HttpResponse → request.Reply
  | .error reason => .error (.transport reason)
  | .ok response => request.interpret response

theorem reply_of_sends (sends : ledger.Sends request delivery)
    (exchange : Delivery → m (Except String HttpResponse)) : ledger.reply exchange request =
      exchange delivery >>= fun result => pure (readingOf request result) := by
  obtain ⟨message,known,delivered⟩ := sends
  rw [reply,known]
  simp only [delivered]
  refine congrArg _ (funext fun result => ?_)
  cases result <;> rfl

/-- A lookup is delivered as the query for it is, and its response answers the same. -/
theorem reply_lookup (ledger : RemoteLedger) (exchange : Delivery → m (Except String HttpResponse))
    (connection : Connection) (tx : TxId) :
    ledger.reply exchange (.lookup connection tx) =
      ledger.reply exchange (.query connection (lookupQuery tx)) := rfl

/-- Every request but the opening of a connection is made over HTTP. Once it is sent, its reply
depends on nothing but what comes of one exchange: the response is told by its status, its body and
the kind of its value, and a failure of the exchange is one of the transport. A lookup is always
answered as the query for it. -/
theorem replies_read (ledger : RemoteLedger) :
    (∀ request : Request, (∃ message, request.toHttp? = some message) ↔
      ∀ connection, request ≠ .connect connection) ∧
    (∀ request delivery, ledger.Sends request delivery →
      ∃ read : Except String HttpResponse → request.Reply,
        (∀ (m : Type → Type) [Monad m] (exchange : Delivery → m (Except String HttpResponse)),
          ledger.reply exchange request =
            exchange delivery >>= fun result => pure (read result)) ∧
        (∀ response reply, read (.ok response) = reply ↔ Means request response reply) ∧
        ∀ reason, read (.error reason) = .error (.transport reason)) ∧
    ∀ (m : Type → Type) [Monad m] (exchange : Delivery → m (Except String HttpResponse))
      (connection : Connection) (tx : TxId), ledger.reply exchange (.lookup connection tx) =
        ledger.reply exchange (.query connection (lookupQuery tx)) := by
  refine ⟨fun request => exists_toHttp?_iff,fun request delivery sends => ?_,
    fun m _ exchange connection tx => reply_lookup ledger exchange connection tx⟩
  exact ⟨readingOf request,fun m _ exchange => reply_of_sends sends exchange,
    fun response reply => interpret_eq_iff (asks_of_sends sends),fun reason => rfl⟩

end

def localLedger : RemoteLedger := ofEndpoint "http://localhost:8090/" unsigned

def someone : Connection := ⟨.make "dev" "s1",⟨"k","ann"⟩⟩

theorem localLedger_sends_lookup :
    ∃ delivery, localLedger.Sends (.lookup someone "t1") delivery := ⟨_,_,rfl,rfl⟩

theorem localLedger_sends_submit :
    ∃ delivery, localLedger.Sends (.submit someone (.list [])) delivery := ⟨_,_,rfl,rfl⟩

theorem localLedger_replies :
    (∃ delivery, localLedger.Sends (.lookup someone "t1") delivery) ∧
      localLedger.reply (m := Id) (fun _ => .ok ⟨200,"\u00a0\n"⟩) (.lookup someone "t1") = .ok [] ∧
      localLedger.reply (m := Id) (fun _ => .ok ⟨299," 7 "⟩) (.lookup someone "t1") =
        .ok [.ofNat 7] ∧
      localLedger.reply (m := Id) (fun _ => .ok ⟨200,"\u00a0\n"⟩)
          (.query someone (lookupQuery "t1")) = .ok [] ∧
      (∃ delivery, localLedger.Sends (.submit someone (.list [])) delivery) ∧
      localLedger.reply (m := Id) (fun _ => .ok ⟨300,"no"⟩) (.submit someone (.list [])) =
        .error (.rejected 300 "no") ∧
      localLedger.reply (m := Id) (fun _ => .ok ⟨200,"no"⟩) (.submit someone (.list [])) =
        .error (.invalidResponse "<json> (body: no)") ∧
      localLedger.reply (m := Id) (fun _ => .ok ⟨200,""⟩) (.submit someone (.list [])) =
        .error (.invalidResponse "expected a transaction id, got null") := by
  obtain ⟨-,sent,looked⟩ := replies_read localLedger
  obtain ⟨asked,sends⟩ := localLedger_sends_lookup
  obtain ⟨submitted,sends'⟩ := localLedger_sends_submit
  obtain ⟨found,replies,means,-⟩ := sent _ _ sends
  obtain ⟨accepted,replies',means',-⟩ := sent _ _ sends'
  have nothing : localLedger.reply (m := Id) (fun _ => .ok ⟨200,"\u00a0\n"⟩)
      (.lookup someone "t1") = .ok [] := (replies Id _).trans <|
    (means _ _).mpr (.answered (by decide) (.blank (by decide)) (.found _ _ (.nothing _ _)))
  have seven : parse " 7 " = some (.ofNat 7) := by decide +kernel
  have word : parse "no" = none := by decide +kernel
  refine ⟨⟨asked,sends⟩,nothing,(replies Id _).trans ?_,(looked Id _ _ _).symm.trans nothing,
    ⟨submitted,sends'⟩,(replies' Id _).trans ?_,(replies' Id _).trans ?_,(replies' Id _).trans ?_⟩
  · exact (means _ _).mpr (.answered (by decide) (.json seven)
      (.found _ _ (.alone _ _ nofun nofun)))
  · exact (means' _ _).mpr (.rejected (by decide))
  · exact (means' _ _).mpr (.garbled (by decide) (by decide) word)
  · exact (means' _ _).mpr (.answered (by decide) (.blank (by decide)) (.unidentified _ _ nofun))

end RemoteLedger

end LedgerRehearsal
