import WeatherNotify.Coding.Escapes
import WeatherNotify.Js.Async
import WeatherNotify.Js.Text
import WeatherNotify.Notifier.DeliveryLog
import WeatherNotify.Notifier.Format

/-!
# The e-mail channel

`EmailChannel.send` and the markup of its mails.  The template has two holes;
what `escapeHtml` puts into them has no character of markup, and reading the
entities back from left to right gives the title and the text of the alert, so
a recipient can tell any two alerts apart that differ in one of them.

The answers of a call say how the lookup of the recipient ended and whether the
mail server took the mail; a message is the text of a rejection.
-/

namespace WeatherNotify.Notifier.Email

open WeatherNotify.Coding
open WeatherNotify.Js

open WeatherNotify.Contracts

/-! ## The channel -/

structure EmailRecipient where
  email : Option String
  verified : Bool
  deriving DecidableEq

structure MailMessage where
  recipient : String
  subject : String
  html : String
  deriving DecidableEq

/-- The mails that were handed to the mail server, taken or not. -/
structure World where
  attempts : List MailMessage

structure Answers where
  emailRecipient : String → Except String (Option EmailRecipient)
  sendMail : Option String

abbrev Sending (α : Type) := Async World Failure α

def emailRecipient (answers : Answers) (userId : String) :
    Sending (Option EmailRecipient) where
  run world :=
    match answers.emailRecipient userId with
    | .ok found => (.ok found, world)
    | .error message => (.error (.unreachable message), world)

/-- `MailService.send` of a service that has a mail server. -/
def sendMail (answers : Answers) (mail : MailMessage) : Sending Unit where
  run world :=
    let after := { world with attempts := world.attempts ++ [mail] }
    match answers.sendMail with
    | none => (.ok (), after)
    | some message => (.error (.other message), after)

/-- The address a recipient can be reached at; an empty one counts as none. -/
def addressOf (recipient : Option EmailRecipient) : Except Failure String :=
  match recipient with
  | some ⟨some email, verified⟩ =>
      if email = "" then .error (.permanent "User has no email")
      else if verified then .ok email
      else .error (.permanent "Email is not verified")
  | _ => .error (.permanent "User has no email")

def mailOf (event : TriggerFiredEvent) (address : String) : MailMessage where
  recipient := address
  subject := alertTitle event
  html := alertHtml event

/-- `send`; `configured` says whether there is a mail server. -/
def send (configured : Bool) (answers : Answers) (event : TriggerFiredEvent) :
    Sending Unit :=
  if configured then do
    let recipient ← emailRecipient answers event.userId
    match addressOf recipient with
    | .error failure => Async.reject failure
    | .ok address => sendMail answers (mailOf event address)
  else Async.reject (.permanent "Mailer is not configured")

/-! ## The entities as a table of escapes -/

def htmlEntities : EscapeTable Char where
  lead := '&'
  codes := htmlEscape.map fun entry => (entry.1, entry.2.toList)
  leads := by decide
  prefixFree := by decide
  escapesLead := by decide

/-- Reads the entities of a text back, from left to right. -/
def decodeEntities (value : String) : String :=
  String.ofList (htmlEntities.unescape value.toList)

/-- The class of `escapeHtml` and its table name the same characters. -/
theorem htmlEscape_characters :
    htmlEntities.codes.map Prod.fst = ['&', '<', '>', '"', '\''] :=
  rfl

theorem htmlEntities_code (char : Char) :
    htmlEntities.code char =
      if char ∈ ['&', '<', '>', '"', '\''] then
        ((htmlEscape.lookup char).getD "undefined").toList
      else [char] := by
  split
  case isTrue special =>
    simp only [List.mem_cons, List.not_mem_nil, or_false] at special
    rcases special with rfl | rfl | rfl | rfl | rfl <;> rfl
  case isFalse plain =>
    rw [← htmlEscape_characters] at plain
    rcases htmlEntities.code_cases char with ⟨entry, member, rfl, _⟩ |
      ⟨_, itself⟩
    · exact absurd (List.mem_map_of_mem member) plain
    · exact itself

/-- `escapeHtml` escapes by the table. -/
theorem escapeHtml_eq (value : String) :
    escapeHtml value = String.ofList (htmlEntities.escape value.toList) := by
  rw [escapeHtml, replaceEach, EscapeTable.escape]
  congr 2
  funext char
  exact (htmlEntities_code char).symm

theorem toList_escapeHtml (value : String) :
    (escapeHtml value).toList = htmlEntities.escape value.toList := by
  rw [escapeHtml_eq, String.toList_ofList]

theorem decodeEntities_escapeHtml (value : String) :
    decodeEntities (escapeHtml value) = value := by
  rw [decodeEntities, toList_escapeHtml, EscapeTable.unescape_escape,
    String.ofList_toList]

theorem escapeHtml_injective : Function.Injective escapeHtml :=
  Function.LeftInverse.injective decodeEntities_escapeHtml

/-! ## Holes -/

/-- No character of markup, and an ampersand only in front of an entity. -/
structure Harmless (hole : String) : Prop where
  noMarkup : ∀ char ∈ ['<', '>', '"', '\''], char ∉ hole.toList
  ampersands : ∀ before after, hole.toList = before ++ '&' :: after →
    ∃ entity ∈ htmlEscape.map Prod.snd, entity.toList <+: '&' :: after

theorem harmless_escapeHtml (value : String) :
    Harmless (escapeHtml value) where
  noMarkup := by
    intro char special
    have coded : char ∈ htmlEntities.codes.map Prod.fst := by
      rw [htmlEscape_characters]
      exact List.mem_cons_of_mem '&' special
    have absent : ∀ entry ∈ htmlEntities.codes, char ∉ entry.2 := by
      simp only [List.mem_cons, List.not_mem_nil, or_false] at special
      rcases special with rfl | rfl | rfl | rfl <;> decide
    rw [toList_escapeHtml]
    exact EscapeTable.not_mem_escape coded absent
  ampersands := by
    intro before after split
    rw [toList_escapeHtml] at split
    rcases EscapeTable.lead_begins_code split with ⟨code, member, begins⟩
    rcases List.mem_map.mp member with ⟨entry, entryMember, rfl⟩
    exact ⟨entry.2, List.mem_map_of_mem entryMember, begins⟩

/-- The markup around the two holes. -/
def template (titleHole textHole : String) : String :=
  "<h2>" ++ titleHole ++ "</h2><p>" ++ textHole ++ "</p>"

theorem alertHtml_eq_template (event : TriggerFiredEvent) :
    alertHtml event =
      template (escapeHtml (alertTitle event)) (escapeHtml (alertText event)) :=
  rfl

theorem toList_template (titleHole textHole : String) :
    (template titleHole textHole).toList =
      "<h2>".toList ++ (titleHole.toList ++ '<' ::
        ("/h2><p>".toList ++ (textHole.toList ++ '<' :: "/p>".toList))) := by
  simp only [template, String.toList_append, List.append_assoc]
  rfl

/-- The holes of the template can be found again: they have no markup. -/
theorem template_inj {title text otherTitle otherText : String}
    (titleHarmless : Harmless title) (textHarmless : Harmless text)
    (otherTitleHarmless : Harmless otherTitle)
    (otherTextHarmless : Harmless otherText)
    (same : template title text = template otherTitle otherText) :
    title = otherTitle ∧ text = otherText := by
  have letters := congrArg String.toList same
  rw [toList_template, toList_template, List.append_cancel_left_eq] at letters
  have free : ∀ {hole : String}, Harmless hole → '<' ∉ hole.toList :=
    fun harmless => harmless.noMarkup '<' List.mem_cons_self
  rcases append_separator_inj (free titleHarmless) (free otherTitleHarmless)
    letters with ⟨titles, rest⟩
  rw [List.append_cancel_left_eq] at rest
  have texts := (append_separator_inj (free textHarmless)
    (free otherTextHarmless) rest).1
  exact ⟨String.toList_injective titles, String.toList_injective texts⟩

/-- The template keeps user text apart from markup and loses none of it. -/
theorem alert_html_safe_and_faithful (event : TriggerFiredEvent) :
    (∃ titleHole textHole : String,
      alertHtml event =
          "<h2>" ++ titleHole ++ "</h2><p>" ++ textHole ++ "</p>" ∧
        Harmless titleHole ∧ Harmless textHole ∧
        decodeEntities titleHole = alertTitle event ∧
        decodeEntities textHole = alertText event) ∧
      ∀ other : TriggerFiredEvent,
        alertHtml event = alertHtml other ↔
          alertTitle event = alertTitle other ∧
            alertText event = alertText other := by
  constructor
  · refine ⟨escapeHtml (alertTitle event), escapeHtml (alertText event), rfl,
      harmless_escapeHtml _, harmless_escapeHtml _, ?_, ?_⟩
    · exact decodeEntities_escapeHtml _
    · exact decodeEntities_escapeHtml _
  · intro other
    constructor
    · intro same
      rw [alertHtml_eq_template, alertHtml_eq_template] at same
      rcases template_inj (harmless_escapeHtml _) (harmless_escapeHtml _)
        (harmless_escapeHtml _) (harmless_escapeHtml _) same with
        ⟨titles, texts⟩
      exact ⟨escapeHtml_injective titles, escapeHtml_injective texts⟩
    · rintro ⟨titles, texts⟩
      rw [alertHtml, alertHtml, titles, texts]

/-! ## What a call mails -/

theorem addressOf_error {recipient : Option EmailRecipient} {failure : Failure}
    (refused : addressOf recipient = .error failure) :
    failure.isPermanent = true := by
  rcases recipient with _ | ⟨_ | email, verified⟩
  · cases refused
    rfl
  · cases refused
    rfl
  · rw [addressOf] at refused
    split at refused
    · cases refused
      rfl
    · split at refused
      · cases refused
      · cases refused
        rfl

section Calls

variable {answers : Answers} {event : TriggerFiredEvent} {world : World}
  {recipient : Option EmailRecipient}

theorem send_of_unreachable {message : String}
    (found : answers.emailRecipient event.userId = .error message) :
    (send true answers event).run world =
      (.error (.unreachable message), world) := by
  rw [send, if_pos rfl, Async.run_bind, emailRecipient, found]

theorem send_of_refused {failure : Failure}
    (found : answers.emailRecipient event.userId = .ok recipient)
    (refused : addressOf recipient = .error failure) :
    (send true answers event).run world = (.error failure, world) := by
  rw [send, if_pos rfl, Async.run_bind, emailRecipient, found]
  simp only [refused, Async.run_reject]

theorem send_of_address {address : String}
    (found : answers.emailRecipient event.userId = .ok recipient)
    (reachable : addressOf recipient = .ok address) :
    (send true answers event).run world =
      (sendMail answers (mailOf event address)).run world := by
  rw [send, if_pos rfl, Async.run_bind, emailRecipient, found]
  simp only [reachable]

theorem sendMail_attempts (answers : Answers) (mail : MailMessage) :
    ((sendMail answers mail).run world).2.attempts =
      world.attempts ++ [mail] := by
  rw [sendMail]
  cases answers.sendMail <;> rfl

/-- What the mail server refuses may be tried again. -/
theorem sendMail_not_permanent {mail : MailMessage} {failure : Failure}
    (ended : ((sendMail answers mail).run world).1 = .error failure) :
    failure.isPermanent = false := by
  rw [sendMail] at ended
  cases taken : answers.sendMail with
  | none =>
      rw [taken] at ended
      cases ended
  | some message =>
      rw [taken] at ended
      cases ended
      rfl

end Calls

/-- A call mails nothing, or the alert to the verified address of its user. -/
theorem send_attempts (configured : Bool) (answers : Answers)
    (event : TriggerFiredEvent) (world : World) :
    ((send configured answers event).run world).2 = world ∨
      ∃ recipient address,
        answers.emailRecipient event.userId = .ok recipient ∧
          addressOf recipient = .ok address ∧
          ((send configured answers event).run world).2.attempts =
            world.attempts ++ [mailOf event address] := by
  cases configured with
  | false => exact Or.inl rfl
  | true =>
      cases found : answers.emailRecipient event.userId with
      | error message =>
          rw [send_of_unreachable found]
          exact Or.inl rfl
      | ok recipient =>
          cases reached : addressOf recipient with
          | error failure =>
              rw [send_of_refused found reached]
              exact Or.inl rfl
          | ok address =>
              rw [send_of_address found reached]
              exact Or.inr ⟨recipient, address, rfl, reached,
                sendMail_attempts answers _⟩

/-- Only a missing mail server or address makes a retry pointless. -/
theorem send_permanent_iff (configured : Bool) (answers : Answers)
    (event : TriggerFiredEvent) (world : World) :
    (∃ failure, ((send configured answers event).run world).1 =
        .error failure ∧ failure.isPermanent = true) ↔
      configured = false ∨
        ∃ recipient failure,
          answers.emailRecipient event.userId = .ok recipient ∧
            addressOf recipient = .error failure := by
  cases configured with
  | false =>
      constructor
      · intro _
        exact Or.inl rfl
      · intro _
        exact ⟨_, rfl, rfl⟩
  | true =>
      constructor
      · rintro ⟨failure, ended, permanent⟩
        right
        cases found : answers.emailRecipient event.userId with
        | error message =>
            rw [send_of_unreachable found] at ended
            cases ended
            cases permanent
        | ok recipient =>
            cases reached : addressOf recipient with
            | error refusal => exact ⟨recipient, refusal, rfl, reached⟩
            | ok address =>
                rw [send_of_address found reached] at ended
                rw [sendMail_not_permanent ended] at permanent
                cases permanent
      · rintro (off | ⟨recipient, failure, found, refused⟩)
        · cases off
        · rw [send_of_refused found refused]
          exact ⟨failure, rfl, addressOf_error refused⟩

end WeatherNotify.Notifier.Email
