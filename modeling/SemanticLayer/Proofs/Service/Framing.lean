import Mathlib.Data.List.TakeWhile
import SemanticLayer.Proofs.Json.Lines
import SemanticLayer.Proofs.Text.Utf8
import SemanticLayer.Service.Connection

/-
# What a connection answers

A connection takes the bytes of a client piece by piece, and each piece through
a window of one byte more than the limit.  What it answers can be told from the
bytes as they are parted at the line ends, with no window: the requests are the
segments that are not blank, up to the first that is too long, and each gets its
answer on a line of its own (`respond_framed`).

| piece | its bytes | the bytes behind it |
| --- | --- | --- |
| a line within the limit | the line and its end | those behind the end |
| a last line within the limit | all | none |
| a line beyond the limit | the window | not looked at |

The three cases are `firstPiece_line`, `firstPiece_tail` and
`firstPiece_overlong`; `lineInduction` goes through the bytes line by line.
-/

namespace SemanticLayer.Connection

/-! ### Segments -/

/-- The lines of the bytes without their ends, and behind them the bytes that no line end follows,
if there are any. -/
def segments (bytes : List UInt8) : List (List UInt8) :=
  let parts := bytes.splitOn lineEnd
  if parts.getLast? = some [] then parts.dropLast else parts

example : segments [97, lineEnd, lineEnd, 32, 98] = [[97], [], [32, 98]] := by decide

example : segments [97, lineEnd] = [[97]] := by decide

/-- The segments before the first that is longer than the limit. -/
def heard (bytes : List UInt8) : List (List UInt8) :=
  (segments bytes).takeWhile fun s => s.length ≤ lineLimit

/-- The requests that are heard: the texts of the segments, without outer blanks, that are not
empty. -/
def requests (bytes : List UInt8) : List String :=
  ((heard bytes).map requestOf).filter fun r => !r.isEmpty

/-- What is said at the first segment that is longer than the limit, if there is one. -/
def refusal (bytes : List UInt8) : List Json :=
  if ∃ s ∈ segments bytes, lineLimit < s.length then [(ServiceError.tooLong lineLimit).toJson]
  else []

/-- **Bytes are nothing, a line with its end before other bytes, or a last line without an end.** -/
theorem lineInduction {P : List UInt8 → Prop} (nil : P [])
    (line : ∀ body rest, lineEnd ∉ body → P rest → P (body ++ lineEnd :: rest))
    (tail : ∀ body, body ≠ [] → lineEnd ∉ body → P body) (bytes : List UInt8) : P bytes := by
  induction hn : bytes.length using Nat.strongRecOn generalizing bytes with
  | ind n ih =>
    by_cases hmem : lineEnd ∈ bytes
    · obtain ⟨body, rest, rfl, hbody⟩ := List.eq_append_cons_of_mem hmem
      have hshorter : rest.length < n := by
        rw [← hn, List.length_append, List.length_cons]
        omega
      exact line body rest hbody (ih rest.length hshorter rest rfl)
    · cases bytes with
      | nil => exact nil
      | cons b bytes => exact tail (b :: bytes) (List.cons_ne_nil b bytes) hmem

theorem ne_lineEnd {body : List UInt8} (h : lineEnd ∉ body) : ∀ b ∈ body, b ≠ lineEnd := by
  rintro b hb rfl
  exact h hb

/-- A line is the first segment, and the segments behind it are those of the bytes behind its
end. -/
theorem segments_line {body : List UInt8} (h : lineEnd ∉ body) (rest : List UInt8) :
    segments (body ++ lineEnd :: rest) = body :: segments rest := by
  have hparts : (body ++ lineEnd :: rest).splitOn lineEnd = body :: rest.splitOn lineEnd :=
    List.splitOnP_append_cons_of_forall_mem (fun b hb => beq_false_of_ne (ne_lineEnd h b hb))
      lineEnd (beq_self_eq_true lineEnd) rest
  have hne : rest.splitOn lineEnd ≠ [] := List.splitOnP_ne_nil _ rest
  have hlast : (body :: rest.splitOn lineEnd).getLast? = (rest.splitOn lineEnd).getLast? := by
    rw [List.getLast?_cons_of_ne_nil hne]
  unfold segments
  dsimp only
  rw [hparts, hlast]
  split
  · rw [List.dropLast_cons_of_ne_nil hne]
  · rfl

/-- Bytes without a line end are one segment. -/
theorem segments_tail {body : List UInt8} (hne : body ≠ []) (h : lineEnd ∉ body) :
    segments body = [body] := by
  have hparts : body.splitOn lineEnd = [body] :=
    List.splitOnP_eq_singleton fun b hb => beq_false_of_ne (ne_lineEnd h b hb)
  unfold segments
  dsimp only
  rw [hparts]
  exact if_neg fun hlast => hne (Option.some.inj hlast)

/-! ### Pieces -/

theorem takeWhile_line {body : List UInt8} (h : lineEnd ∉ body) (rest : List UInt8) :
    (body ++ lineEnd :: rest).takeWhile (· != lineEnd) = body := by
  have hbody : ∀ b ∈ body, (b != lineEnd) = true := fun b hb => bne_iff_ne.2 (ne_lineEnd h b hb)
  rw [List.takeWhile_append_of_pos hbody, List.takeWhile_cons_of_neg (by simp), List.append_nil]

theorem takeWhile_tail {body : List UInt8} (h : lineEnd ∉ body) :
    body.takeWhile (· != lineEnd) = body := by
  rw [List.takeWhile_eq_self_iff]
  exact fun b hb => bne_iff_ne.2 (ne_lineEnd h b hb)

/-- A line within the limit is taken with its end. -/
theorem firstPiece_line {body : List UInt8} (h : lineEnd ∉ body) (hle : body.length ≤ lineLimit)
    (rest : List UInt8) :
    firstPiece (body ++ lineEnd :: rest) = (.line (body ++ [lineEnd]), rest) := by
  have hbody :
      ((body ++ lineEnd :: rest).take (lineLimit + 1)).takeWhile (· != lineEnd) = body := by
    rw [← List.take_takeWhile, takeWhile_line h, List.take_of_length_le (by omega)]
  have hdrop : (body ++ lineEnd :: rest).drop (body.length + 1) = rest := by
    rw [List.drop_append, List.drop_eq_nil_of_le (by omega)]
    simp
  unfold firstPiece
  dsimp only
  rw [hbody, if_pos, hdrop]
  rw [List.length_take, List.length_append, List.length_cons]
  omega

/-- A last line within the limit is taken as it is. -/
theorem firstPiece_tail {body : List UInt8} (h : lineEnd ∉ body) (hle : body.length ≤ lineLimit) :
    firstPiece body = (.line body, []) := by
  have hwindow : body.take (lineLimit + 1) = body := List.take_of_length_le (by omega)
  unfold firstPiece
  dsimp only
  rw [hwindow, takeWhile_tail h, if_neg (Nat.lt_irrefl _), if_neg (Nat.not_lt.2 hle)]

/-- Of a line beyond the limit no more than the window is looked at. -/
theorem firstPiece_overlong {body : List UInt8} (h : lineEnd ∉ body)
    (hlt : lineLimit < body.length) (rest : List UInt8) :
    (firstPiece (body ++ rest)).1 = .overlong := by
  have hwindow : (body ++ rest).take (lineLimit + 1) = body.take (lineLimit + 1) :=
    List.take_append_of_le_length hlt
  have hmem : lineEnd ∉ body.take (lineLimit + 1) := fun hmem => h (List.mem_of_mem_take hmem)
  unfold firstPiece
  dsimp only
  rw [hwindow, takeWhile_tail hmem, if_neg (Nat.lt_irrefl _), if_pos]
  rw [List.length_take]
  omega

/-! ### Requests -/

/-- The end of a line does not count for its request. -/
theorem requestOf_line (body : List UInt8) : requestOf (body ++ [lineEnd]) = requestOf body := by
  have hend : lineEnd.toNat < 0x80 := by decide
  have hblank : Text.isBlank (Char.ofNat lineEnd.toNat) = true := by decide
  rw [requestOf, Text.decodeUtf8_append_ascii hend, Text.decodeUtf8, Text.trim_append_blank hblank,
    requestOf]

/-- What is heard of a segment within the limit and of those behind it. -/
theorem requests_of_segments {bytes rest body : List UInt8}
    (h : segments bytes = body :: segments rest) (hle : body.length ≤ lineLimit) :
    requests bytes = if (requestOf body).isEmpty then requests rest
      else requestOf body :: requests rest := by
  have hheard : heard bytes = body :: heard rest := by
    rw [heard, h, List.takeWhile_cons_of_pos (by simpa using hle), heard]
  rw [requests, hheard, List.map_cons, List.filter_cons]
  cases (requestOf body).isEmpty with
  | true => rfl
  | false => rfl

theorem refusal_of_segments {bytes rest body : List UInt8}
    (h : segments bytes = body :: segments rest) (hle : body.length ≤ lineLimit) :
    refusal bytes = refusal rest := by
  have hiff : (∃ s ∈ segments bytes, lineLimit < s.length) ↔
      ∃ s ∈ segments rest, lineLimit < s.length := by
    rw [h]
    simp only [List.mem_cons, exists_eq_or_imp, or_iff_right (Nat.not_lt.2 hle)]
  simp only [refusal, hiff]

/-- Nothing is heard from a segment beyond the limit on. -/
theorem of_segments_overlong {bytes body : List UInt8} {more : List (List UInt8)}
    (h : segments bytes = body :: more) (hlt : lineLimit < body.length) :
    requests bytes = [] ∧ refusal bytes = [(ServiceError.tooLong lineLimit).toJson] := by
  constructor
  · have hheard : heard bytes = [] := by
      rw [heard, h, List.takeWhile_cons_of_neg (by simpa using hlt)]
    rw [requests, hheard]
    rfl
  · rw [refusal, if_pos ⟨body, h ▸ List.mem_cons_self, hlt⟩]

/-! ### Answers -/

section Answers

variable (handle : String → Option Json)

/-- The answers to requests and what is said behind them, unless one breaks off. -/
def answers : List String → List Json → List Json
  | [], last => last
  | request :: rest, last =>
    match handle request with
    | some response => response :: answers rest last
    | none => []

theorem respond_nil : respond handle [] = [] := by
  rw [respond]
  rfl

/-- A piece that is a line is answered, unless it is blank. -/
theorem respond_of_line {bytes line rest : List UInt8} (hne : bytes ≠ [])
    (h : firstPiece bytes = (.line line, rest)) :
    respond handle bytes =
      if (requestOf line).isEmpty then respond handle rest
      else
        match handle (requestOf line) with
        | some response => response :: respond handle rest
        | none => [] := by
  rw [respond, dif_neg hne]
  generalize length_firstPiece_lt bytes hne = hshorter
  revert hshorter
  rw [h]
  intro _
  rfl

/-- A piece that is no line is refused. -/
theorem respond_of_overlong {bytes : List UInt8} (hne : bytes ≠ [])
    (h : (firstPiece bytes).1 = .overlong) :
    respond handle bytes = [(ServiceError.tooLong lineLimit).toJson] := by
  rw [respond, dif_neg hne]
  generalize length_firstPiece_lt bytes hne = hshorter
  revert hshorter
  generalize firstPiece bytes = piece at h ⊢
  obtain ⟨piece, rest⟩ := piece
  change piece = .overlong at h
  rw [h]
  intro _
  rfl

/-- A segment within the limit is answered before those behind it. -/
theorem answers_step {bytes rest body line : List UInt8} (hne : bytes ≠ [])
    (hsegments : segments bytes = body :: segments rest) (hle : body.length ≤ lineLimit)
    (hpiece : firstPiece bytes = (.line line, rest)) (hrequest : requestOf line = requestOf body)
    (ih : respond handle rest = answers handle (requests rest) (refusal rest)) :
    respond handle bytes = answers handle (requests bytes) (refusal bytes) := by
  rw [respond_of_line handle hne hpiece, hrequest, requests_of_segments hsegments hle,
    refusal_of_segments hsegments hle, ih]
  cases (requestOf body).isEmpty with
  | true => rfl
  | false => rfl

/-- **The segments are answered one after the other,** and the first beyond the limit is refused. -/
theorem respond_eq_answers (bytes : List UInt8) :
    respond handle bytes = answers handle (requests bytes) (refusal bytes) := by
  induction bytes using lineInduction with
  | nil => exact respond_nil handle
  | line body rest hbody ih =>
    have hne : body ++ lineEnd :: rest ≠ [] := by simp
    have hsegments := segments_line hbody rest
    by_cases hle : body.length ≤ lineLimit
    · exact answers_step handle hne hsegments hle (firstPiece_line hbody hle rest)
        (requestOf_line body) ih
    · have hlt : lineLimit < body.length := Nat.not_le.1 hle
      obtain ⟨hrequests, hrefusal⟩ := of_segments_overlong hsegments hlt
      rw [respond_of_overlong handle hne (firstPiece_overlong hbody hlt _), hrequests, hrefusal]
      rfl
  | tail body hne hbody =>
    have hsegments : segments body = body :: segments [] := segments_tail hne hbody
    by_cases hle : body.length ≤ lineLimit
    · exact answers_step handle hne hsegments hle (firstPiece_tail hbody hle) rfl
        (respond_nil handle)
    · have hlt : lineLimit < body.length := Nat.not_le.1 hle
      have hoverlong := firstPiece_overlong hbody hlt []
      rw [List.append_nil] at hoverlong
      obtain ⟨hrequests, hrefusal⟩ := of_segments_overlong hsegments hlt
      rw [respond_of_overlong handle hne hoverlong, hrequests, hrefusal]
      rfl

variable {handle}

/-- All requests are answered. -/
theorem map_some_answers {requests : List String} (h : ∀ r ∈ requests, handle r ≠ none)
    (last : List Json) :
    (answers handle requests last).map some = requests.map handle ++ last.map some := by
  induction requests with
  | nil => rfl
  | cons request rest ih =>
    obtain ⟨hrequest, hrest⟩ := List.forall_mem_cons.1 h
    obtain ⟨response, hresponse⟩ := Option.ne_none_iff_exists'.1 hrequest
    rw [answers, hresponse]
    dsimp only
    rw [List.map_cons, ih hrest, List.map_cons, hresponse, List.cons_append]

/-- Nothing is said from a request on that breaks off. -/
theorem answers_append_none {request : String} (hrequest : handle request = none)
    (before after : List String) (last : List Json) :
    answers handle (before ++ request :: after) last = answers handle before [] := by
  induction before with
  | nil =>
    have hstop : answers handle (request :: after) last = [] := by
      rw [answers, hrequest]
    rw [List.nil_append, hstop, answers]
  | cons r before ih => rw [List.cons_append, answers, answers, ih]

end Answers

/-! ### Lines -/

/-- Every response is on a line of its own. -/
theorem splitOn_output (responses : List Json) :
    (output responses).toList.splitOn '\n' = responses.map (fun r => r.write.toList) ++ [[]] := by
  induction responses with
  | nil => rfl
  | cons r responses ih =>
    have hvisible : ∀ c ∈ r.writeChars, c ≠ '\n' := by
      rintro c hc rfl
      exact (Json.visible_writeChars r).newline_not_mem hc
    have htext : (output (r :: responses)).toList =
        r.writeChars ++ '\n' :: (output responses).toList := by
      rw [output, List.map_cons, String.join_cons, String.toList_append, String.toList_append,
        Json.write, String.toList_ofList, List.append_assoc]
      rfl
    have hsplit : (r.writeChars ++ '\n' :: (output responses).toList).splitOn '\n' =
        r.writeChars :: (output responses).toList.splitOn '\n' :=
      List.splitOnP_append_cons_of_forall_mem (fun c hc => beq_false_of_ne (hvisible c hc)) '\n'
        (beq_self_eq_true '\n') _
    rw [htext, hsplit, ih, List.map_cons, List.cons_append, Json.write, String.toList_ofList]

/-! ### Connections -/

/-- **A connection loses, merges and invents no request.**  If every request is answered, the
responses are the answers in their order, and behind them the refusal if a segment is longer than
the limit.  A request that breaks off is the last that is looked at.  Whatever is sent back is sent
line by line. -/
theorem respond_framed (handle : String → Option Json) (bytes : List UInt8) :
    ((∀ r ∈ requests bytes, handle r ≠ none) →
        (respond handle bytes).map some = (requests bytes).map handle ++ (refusal bytes).map some) ∧
      (∀ before request after, requests bytes = before ++ request :: after →
        (∀ r ∈ before, handle r ≠ none) → handle request = none →
          (respond handle bytes).map some = before.map handle) ∧
      (output (respond handle bytes)).toList.splitOn '\n' =
        (respond handle bytes).map (fun r => r.write.toList) ++ [[]] := by
  refine ⟨fun hanswered => ?_, fun before request after hrequests hbefore hrequest => ?_, ?_⟩
  · rw [respond_eq_answers, map_some_answers hanswered]
  · rw [respond_eq_answers, hrequests, answers_append_none hrequest, map_some_answers hbefore,
      List.map_nil, List.append_nil]
  · exact splitOn_output (respond handle bytes)

/-- A blank line between two requests, of which the second has no line end behind it. -/
def twoRequests : List UInt8 := [97, lineEnd, lineEnd, 98]

theorem requests_twoRequests : requests twoRequests = ["a", "b"] := by decide +kernel

theorem refusal_twoRequests : refusal twoRequests = [] := by decide

/-- Both are answered, and if the second breaks off, the first is. -/
theorem respond_framed_twoRequests :
    (respond (fun r => some (.string r)) twoRequests).map some =
        [some (.string "a"), some (.string "b")] ∧
      (respond (fun r => if r = "b" then none else some (.string r)) twoRequests).map some =
        [some (.string "a")] := by
  constructor
  · have hanswered : ∀ r ∈ requests twoRequests, some (Json.string r) ≠ none :=
      fun _ _ => Option.some_ne_none _
    rw [(respond_framed _ twoRequests).1 hanswered, requests_twoRequests, refusal_twoRequests]
    rfl
  · have hbefore : ∀ r ∈ ["a"], (if r = "b" then none else some (Json.string r)) ≠ none := by
      simp
    exact (respond_framed _ twoRequests).2.1 ["a"] "b" [] requests_twoRequests hbefore (if_pos rfl)

end SemanticLayer.Connection
