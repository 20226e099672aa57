import ActionServer.Server.Basic

/-!
# What stands around the routes

Three things stand between a request and the routes. Questions about origins are answered in front of
them. A request whose time is up is told so. Every other answer is the one that the routes give: its
status stays, its body does unless there is to be none, and headers are added that are read off the
request's own headers.
-/

namespace ActionServer

/-- Besides those to `HEAD`, only answers that tell a `CONNECT` of success have no body. -/
theorem HttpResponse.isBodiless_eq_false {method : String} {status : Nat} (head : method ≠ "HEAD")
    (told : method ≠ "CONNECT" ∨ 400 ≤ status) : isBodiless method status = false := by
  rcases told with other | failed
  · simp [isBodiless, head, other]
  · simp [isBodiless, head, Status.isSuccess_of_le failed]

namespace Server

/-- An answer of the routes as it leaves the server. -/
def delivered (s : Server) (r : HttpRequest) (a : HttpResponse) : HttpResponse :=
  Origins.addTo s.settings.corsOrigins r ((a.bodyFor r.method).markFor r)

variable {s : Server} {r r' : HttpRequest} {w : World} {pace : Pace}

theorem respondIn_of_question (asks : r.method = "OPTIONS") :
    s.respondIn pace r w =
      (Origins.answer s.settings.corsOrigins (ownPaths.contains r.path) r, w) := by
  simp [respondIn, Origins.isQuestion, asks]

theorem respondIn_of_other (other : r.method ≠ "OPTIONS") :
    s.respondIn pace r w = (s.delivered r (s.serveIn pace r w).1, (s.serveIn pace r w).2) := by
  simp [respondIn, Origins.isQuestion, other, delivered]

theorem serveIn_of_inTime (inTime : pace.finish ≤ s.timeLimit) : s.serveIn pace r w = s.serve r w :=
  if_pos inTime

theorem respond_of_question (asks : r.method = "OPTIONS") :
    s.respond r w =
      (Origins.answer s.settings.corsOrigins (ownPaths.contains r.path) r, w) :=
  respondIn_of_question asks

theorem respond_of_other (other : r.method ≠ "OPTIONS") :
    s.respond r w = (s.delivered r (s.serve r w).1, (s.serve r w).2) := by
  rw [respond, respondIn_of_other other, serveIn_of_inTime (Nat.zero_le _)]

/-- How long a request takes makes no difference as long as it is in time. -/
theorem respondIn_of_inTime (inTime : pace.finish ≤ s.timeLimit) :
    s.respondIn pace r w = s.respond r w := by
  by_cases asks : r.method = "OPTIONS"
  · rw [respondIn_of_question asks, respond_of_question asks]
  · rw [respondIn_of_other asks, respond_of_other asks, serveIn_of_inTime inTime]

/-- A request that is late is told no more than that. What its run does is done all the same, once the
run has begun. -/
theorem respondIn_of_late (other : r.method ≠ "OPTIONS") (late : s.timeLimit < pace.finish) :
    s.respondIn pace r w = (s.delivered r .timedOut,
      if pace.start ≤ s.timeLimit then (s.respond r w).2 else w) := by
  rw [respondIn_of_other other, serveIn, if_neg (Nat.not_le.mpr late), respond_of_other other]

@[simp]
theorem delivered_status (s : Server) (r : HttpRequest) (a : HttpResponse) :
    (s.delivered r a).status = a.status := by
  simp only [delivered, Origins.addTo, HttpResponse.markFor, HttpResponse.bodyFor]
  split <;> rfl

theorem delivered_body {a : HttpResponse}
    (kept : HttpResponse.isBodiless r.method a.status = false) : (s.delivered r a).body = a.body := by
  simp [delivered, Origins.addTo, HttpResponse.markFor, HttpResponse.bodyFor, kept]

theorem delivered_body_of_bodiless {a : HttpResponse}
    (bodiless : HttpResponse.isBodiless r.method a.status = true) : (s.delivered r a).body = [] := by
  simp [delivered, Origins.addTo, HttpResponse.markFor, HttpResponse.bodyFor, bodiless]

theorem delivered_timedOut_body : (s.delivered r .timedOut).body = [] := by
  simp only [delivered, Origins.addTo, HttpResponse.markFor, HttpResponse.bodyFor]
  split <;> rfl

/-- Nothing here looks at more of a request than its method, its headers and whether its path is one
of the server's own. -/
theorem respond_congr (method : r.method = r'.method) (headers : r.headers = r'.headers)
    (own : ownPaths.contains r.path = ownPaths.contains r'.path)
    (served : s.serve r w = s.serve r' w) : s.respond r w = s.respond r' w := by
  have header (name : String) : r.header? name = r'.header? name := by
    simp only [HttpRequest.header?, headers]
  have told : Origins.headers s.settings.corsOrigins r =
      Origins.headers s.settings.corsOrigins r' := by
    simp only [Origins.headers, Origins.allowed?, header]
  by_cases asks : r.method = "OPTIONS"
  · rw [respond_of_question asks, respond_of_question (method ▸ asks)]
    simp only [Origins.answer, told, own]
  · have marked (a : HttpResponse) : a.markFor r = a.markFor r' := by
      rw [HttpResponse.markFor, HttpResponse.markFor, header]
    rw [respond_of_other asks, respond_of_other (method ▸ asks), served]
    simp only [delivered, Origins.addTo, marked, method, told]

end Server

end ActionServer
