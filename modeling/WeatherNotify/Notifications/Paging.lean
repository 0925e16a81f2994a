import WeatherNotify.Common.Pagination
import WeatherNotify.Notifier.DeliveryLog

/-!
# The pages of the history

`NotificationsService.findAll` and a reader who asks for one page after the
other.  Each page is a query of its own, ordered by `createdAt` alone, and the
database may return rows of the same millisecond in a different order each
time.  Over a history that does not change the pages show every row exactly
once if and only if no such rows are parted by the end of a page.
-/

namespace WeatherNotify.Notifications

open WeatherNotify.Common
open WeatherNotify.Contracts
open WeatherNotify.Notifier
open WeatherNotify.Order

/-! ## Rows and responses -/

/-- A row of the delivery log with what the database generates. -/
structure Notification extends NotificationRow where
  id : String
  createdAt : Int

structure NotificationTable where
  rows : List Notification
  distinctIds : (rows.map Notification.id).Nodup

structure NotificationResponseDto where
  id : String
  triggerId : Option String
  channel : Channel
  status : NotifStatus
  payload : Json
  error : Option String
  createdAt : Int

def toNotificationResponse (row : Notification) : NotificationResponseDto where
  id := row.id
  triggerId := row.triggerId
  channel := row.channel
  status := row.status
  payload := row.payload
  error := row.error
  createdAt := row.createdAt

def notificationsOf (table : NotificationTable) (userId : String) :
    List Notification :=
  table.rows.filter fun row => row.userId = userId

/-- An order in which the database may return the rows of a user. -/
abbrev Answer (table : NotificationTable) (userId : String) :=
  Ranking Notification.createdAt (notificationsOf table userId)

/-! ## The service -/

def findAll (table : NotificationTable) (userId : String)
    (dto : PaginationDto) (answer : Answer table userId) :
    PaginatedResult NotificationResponseDto :=
  let page := dto.pageOrDefault
  let limit := dto.limitOrDefault
  { items := (findMany answer ((page - 1) * limit) limit).map
      toNotificationResponse
    total := table.rows.countP fun row => row.userId = userId
    page := page
    limit := limit }

variable {table : NotificationTable} {userId : String}

theorem notificationsOf_distinctIds (table : NotificationTable)
    (userId : String) :
    ((notificationsOf table userId).map Notification.id).Nodup :=
  table.distinctIds.sublist (List.filter_sublist.map Notification.id)

theorem findAll_total (dto : PaginationDto) (answer : Answer table userId) :
    (findAll table userId dto answer).total =
      (notificationsOf table userId).length :=
  List.countP_eq_length_filter

theorem findAll_items_length_le (dto : PaginationDto)
    (answer : Answer table userId) :
    (findAll table userId dto answer).items.length ≤ 100 := by
  have bounds := dto.limitOrDefault_bounds
  rw [findAll, List.length_map, findMany, List.length_take]
  omega

theorem findAll_atPage_items (dto : PaginationDto)
    (answer : Answer table userId) (index : Nat) :
    (findAll table userId (dto.atPage index) answer).items =
      (window dto.limitOrDefault index answer.rows).map
        toNotificationResponse := by
  rw [findAll, findMany_atPage]

/-! ## All pages one after another -/

/-- What the pages up to the last one show, each with the answer it got. -/
def pagesShown (table : NotificationTable) (userId : String)
    (dto : PaginationDto) (answers : Nat → Answer table userId) :
    List NotificationResponseDto :=
  let total := (findAll table userId dto (answers 0)).total
  (List.range (total ⌈/⌉ dto.limitOrDefault)).flatMap fun index =>
    (findAll table userId (dto.atPage index) (answers index)).items

/-- Each of the user's notifications is shown once and nothing else is. -/
def ShowsEachOnce (table : NotificationTable) (userId : String)
    (dto : PaginationDto) : Prop :=
  ∀ answers : Nat → Answer table userId,
    (pagesShown table userId dto answers).Perm
      ((notificationsOf table userId).map toNotificationResponse)

theorem pagesShown_eq (dto : PaginationDto)
    (answers : Nat → Answer table userId) :
    pagesShown table userId dto answers =
      ((List.range ((notificationsOf table userId).length ⌈/⌉
          dto.limitOrDefault)).flatMap fun index =>
        window dto.limitOrDefault index (answers index).rows).map
          toNotificationResponse := by
  rw [pagesShown, findAll_total, List.map_flatMap]
  simp only [findAll_atPage_items]

/-- The pages show every row once if no tie lies across the end of one. -/
theorem paging_shows_each_once_iff (table : NotificationTable)
    (userId : String) (dto : PaginationDto) :
    ShowsEachOnce table userId dto ↔
      TiesShareAPage Notification.createdAt (notificationsOf table userId)
        dto.limitOrDefault := by
  have positive : 0 < dto.limitOrDefault := dto.limitOrDefault_bounds.1
  constructor
  · intro once row member
    by_contra parts
    obtain ⟨answers, repeats⟩ := exists_repeated member parts positive
    have shown := once answers
    rw [pagesShown_eq] at shown
    have ids := shown.map NotificationResponseDto.id
    rw [List.map_map, List.map_map] at ids
    have distinct := ids.nodup_iff.mpr
      (notificationsOf_distinctIds table userId)
    exact repeats distinct.of_map
  · intro share answers
    rw [pagesShown_eq]
    exact (windows_perm share positive answers).map toNotificationResponse

/-! ## A firing on two channels -/

/-- The row of one firing on one channel; both are stored in one millisecond. -/
def firedRow (id : String) (channel : Channel) : Notification where
  eventId := some "storm"
  triggerId := some "wind"
  userId := "ann"
  channel := channel
  status := .sent
  payload := .null
  error := none
  claimedAt := none
  deliveredTo := []
  id := id
  createdAt := 1000

def firedTwice : NotificationTable where
  rows := [firedRow "first" .email, firedRow "second" .telegram]
  distinctIds := by decide

def onePerPage : PaginationDto where
  page := acceptPage 1
  limit := acceptLimit 1

example : ¬ TiesShareAPage Notification.createdAt
    (notificationsOf firedTwice "ann") onePerPage.limitOrDefault := by
  decide

/-- The second query returns the two rows the other way round. -/
def turnedAnswers : Nat → Answer firedTwice "ann"
  | 0 =>
      { rows := [firedRow "first" .email, firedRow "second" .telegram]
        perm := List.Perm.refl _
        descending := by decide }
  | _ + 1 =>
      { rows := [firedRow "second" .telegram, firedRow "first" .email]
        perm := List.Perm.swap _ _ []
        descending := by decide }

theorem paging_repeats_tied_row :
    ¬ ShowsEachOnce firedTwice "ann" onePerPage := by
  intro once
  have shown := (once turnedAnswers).map NotificationResponseDto.id
  have repeated : (pagesShown firedTwice "ann" onePerPage turnedAnswers).map
      NotificationResponseDto.id = ["first", "first"] := by
    decide
  have stored : ((notificationsOf firedTwice "ann").map
      toNotificationResponse).map NotificationResponseDto.id =
        ["first", "second"] := by
    decide
  rw [repeated, stored] at shown
  exact absurd shown (by decide)

end WeatherNotify.Notifications
