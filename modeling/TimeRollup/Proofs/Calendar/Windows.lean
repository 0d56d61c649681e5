import TimeRollup.CommandLine.Answer
import TimeRollup.Proofs.Calendar.Timestamps
import TimeRollup.Proofs.Chain.Structure

/-!
# What a window becomes

A refresh call names its bounds by timestamps without the part of a second, so each bound moves back to
the start of its second.  That widens a window at its start and shortens it at its end, and a window
within one second is left with no time at all.  Windows that are given by a duration are checked for no
order: the duration alone decides it, and the calendar decides whether there is a window.
-/

namespace TimeRollup

namespace Calendar.Instant

theorem not_lt_secondStart (instant : Instant) : ¬ instant < instant.secondStart := by
  simp only [lt_iff, secondStart, nanosPerSecond]
  omega

theorem secondStart_lt_iff {instant : Instant} :
    instant.secondStart < instant ↔ instant.nanos % nanosPerSecond ≠ 0 := by
  simp only [lt_iff, secondStart, nanosPerSecond, Int.lt_irrefl, false_or, true_and, ne_eq]
  omega

/-- Of two instants in order the starts of their seconds are in order or equal. -/
theorem secondStart_lt_secondStart_iff {first last : Instant} (h : first < last) :
    first.secondStart < last.secondStart ↔ first.secondStart ≠ last.secondStart := by
  simp only [lt_iff, secondStart, nanosPerSecond, ne_eq, Instant.mk.injEq] at h ⊢
  omega

/-- The first second of the calendar. -/
def calendarStart : Int :=
  (Date.mk firstYear 1 1).toDays * secondsPerDay

/-- The first second after the calendar. -/
def calendarEnd : Int :=
  ((Date.mk lastYear 12 31).toDays + 1) * secondsPerDay

theorem inCalendar_iff {instant : Instant} :
    instant.inCalendar = true ↔
      calendarStart ≤ instant.seconds ∧ instant.seconds < calendarEnd := by
  simp only [inCalendar, Bool.and_eq_true, decide_eq_true_eq]
  simp only [calendarStart, calendarEnd, secondsPerDay]
  omega

theorem before?_eq_some_iff {instant earlier : Instant} {seconds : Int} :
    instant.before? seconds = some earlier ↔
      (calendarStart ≤ instant.seconds - seconds ∧ instant.seconds - seconds < calendarEnd) ∧
        earlier = ⟨instant.seconds - seconds, instant.nanos⟩ := by
  simp only [before?, Option.ite_none_right_eq_some, inCalendar_iff, Option.some.injEq,
    @eq_comm _ earlier]

theorem sub_lt_iff {instant : Instant} {seconds : Int} :
    (⟨instant.seconds - seconds, instant.nanos⟩ : Instant) < instant ↔ 0 < seconds := by
  simp only [lt_iff]
  omega

end Calendar.Instant

open TimeRollup.Calendar

namespace Statement

/-- The text calls for a refresh of a table from one instant to another, as its literals are read.  No
literal has a quote in it, so the text has the two literals in one way only. -/
def CallsRefresh (sql table : String) (start stop : Instant) : Prop :=
  ∃ startText stopText,
    sql = "CALL refresh_continuous_aggregate('" ++ table ++ "', '" ++ startText ++ "', '" ++
        stopText ++ "')" ∧
      ('\'' ∉ startText.toList ∧ '\'' ∉ stopText.toList) ∧
      Instant.ofLiteral? startText.toList = some start ∧
      Instant.ofLiteral? stopText.toList = some stop

theorem CallsRefresh.unique {sql table : String} {start stop start' stop' : Instant}
    (h : CallsRefresh sql table start stop) (h' : CallsRefresh sql table start' stop') :
    start = start' ∧ stop = stop' := by
  obtain ⟨startText, stopText, rfl, ⟨-, hstopQuote⟩, hstart, hstop⟩ := h
  obtain ⟨startText', stopText', hsql, ⟨-, hstopQuote'⟩, hstart', hstop'⟩ := h'
  have hlists : ("CALL refresh_continuous_aggregate('" ++ table ++ "', '").toList ++
        (startText.toList ++ "', ".toList ++ '\'' :: stopText.toList) ++ "')".toList =
      ("CALL refresh_continuous_aggregate('" ++ table ++ "', '").toList ++
        (startText'.toList ++ "', ".toList ++ '\'' :: stopText'.toList) ++ "')".toList := by
    simpa only [String.toList_append, String.reduceToList, List.append_assoc, List.cons_append,
      List.nil_append] using congrArg String.toList hsql
  -- Without the quote that ends the second literal, the last quote is the one that starts it.
  obtain ⟨hbefore, hstopText⟩ := Text.eq_of_append_cons_eq hstopQuote hstopQuote'
    (List.append_cancel_left (List.append_cancel_right hlists))
  have hstartText : startText.toList = startText'.toList := List.append_cancel_right hbefore
  rw [← hstartText, hstart] at hstart'
  rw [← hstopText, hstop] at hstop'
  exact ⟨Option.some.inj hstart', Option.some.inj hstop'⟩

theorem sql_refresh (table : String) (first last : Instant) :
    (refresh table ⟨some first, some last⟩).sql =
      "CALL refresh_continuous_aggregate('" ++ table ++ "', '" ++ first.secondsText ++ "', '" ++
        last.secondsText ++ "')" :=
  calc (refresh table ⟨some first, some last⟩).sql
    _ = "CALL refresh_continuous_aggregate('" ++ table ++ "', " ++
          ("'" ++ first.secondsText ++ "'") ++ ", " ++ ("'" ++ last.secondsText ++ "'") ++ ")" := rfl
    _ = _ := by
      apply String.toList_inj.1
      simp only [String.toList_append, String.reduceToList, List.append_assoc, List.cons_append,
        List.nil_append]

theorem callsRefresh_refresh_iff {first last start stop : Instant} (hfirst : first.IsProper)
    (hlast : last.IsProper) (table : String) :
    CallsRefresh (refresh table ⟨some first, some last⟩).sql table start stop ↔
      first.secondStart = start ∧ last.secondStart = stop := by
  have hcall : CallsRefresh (refresh table ⟨some first, some last⟩).sql table
      first.secondStart last.secondStart :=
    ⟨first.secondsText, last.secondsText, sql_refresh table first last,
      ⟨first.quote_notMem_secondsText, last.quote_notMem_secondsText⟩,
      Instant.ofLiteral?_secondsText hfirst, Instant.ofLiteral?_secondsText hlast⟩
  constructor
  · exact fun h => hcall.unique h
  · rintro ⟨rfl, rfl⟩
    exact hcall

end Statement

namespace Chain

theorem eq_refresh_of_mem_refreshStatements {chain : Chain} {window : RefreshWindow}
    {only : Option (List Granularity)} {statement : Statement}
    (h : statement ∈ chain.refreshStatements window only) :
    statement = .refresh statement.table window := by
  obtain ⟨view, -, rfl⟩ := List.mem_map.1 h
  rfl

/-- A refresh call has bounds and starts no later than its window.  It reaches the end of the window
exactly if that is on a whole second, and it spans some time exactly if the window does not lie within
one second. -/
theorem bounds_of_mem_refreshStatements {chain : Chain} {window : RefreshWindow}
    {only : Option (List Granularity)} {statement : Statement} {first last : Instant}
    (hfirst : first.IsProper) (hlast : last.IsProper)
    (hwindow : RefreshWindow.ofBounds (some first) (some last) = .ok window)
    (h : statement ∈ chain.refreshStatements window only) :
    (∃ start stop, Statement.CallsRefresh statement.sql statement.table start stop) ∧
      ∀ {start stop}, Statement.CallsRefresh statement.sql statement.table start stop →
        start ≤ first ∧
        (last ≤ stop ↔ last.nanos % nanosPerSecond = 0) ∧
        (start < stop ↔ first.secondStart ≠ last.secondStart) := by
  obtain ⟨rfl, horder⟩ := RefreshWindow.ofBounds_eq_ok_iff.1 hwindow
  have hlt : first < last := horder first rfl last rfl
  rw [eq_refresh_of_mem_refreshStatements h]
  simp only [Statement.table, Statement.callsRefresh_refresh_iff hfirst hlast]
  refine ⟨⟨_, _, rfl, rfl⟩, ?_⟩
  rintro _ _ ⟨rfl, rfl⟩
  refine ⟨first.not_lt_secondStart, ?_, Instant.secondStart_lt_secondStart_iff hlt⟩
  calc last ≤ last.secondStart
    _ ↔ ¬ last.nanos % nanosPerSecond ≠ 0 := not_congr Instant.secondStart_lt_iff
    _ ↔ last.nanos % nanosPerSecond = 0 := not_not

/-- A window from within a leap second to the second after it. -/
theorem bounds_of_mem_refreshStatements_trades :
    ∃ first last chain statement,
      (Instant.ofRfc3339? "2016-12-31T23:59:60.5Z" = some first ∧
        Instant.ofRfc3339? "2017-01-01T00:00:00Z" = some last) ∧
      RefreshWindow.ofBounds (some first) (some last) = .ok ⟨some first, some last⟩ ∧
      ((ChainBuilder.mk ⟨[]⟩ false).build ChainBuilder.trades [.minute, .hour, .day]).result =
        .ok chain ∧
      statement ∈ chain.refreshStatements ⟨some first, some last⟩ (some [.hour]) ∧
      ∃ start stop, Statement.CallsRefresh statement.sql statement.table start stop ∧
        start ≤ first ∧ last ≤ stop ∧ start < stop := by
  have hfirst : Instant.ofRfc3339? "2016-12-31T23:59:60.5Z" = some ⟨1483228799, 1500000000⟩ := by
    decide +kernel
  have hlast : Instant.ofRfc3339? "2017-01-01T00:00:00Z" = some ⟨1483228800, 0⟩ := by
    decide +kernel
  obtain ⟨chain, hchain, hstatements⟩ : ∃ chain,
      ((ChainBuilder.mk ⟨[]⟩ false).build ChainBuilder.trades [.minute, .hour, .day]).result =
        .ok chain ∧
      ∀ window, chain.refreshStatements window (some [.hour]) = [.refresh "ticks_per_hour" window] :=
    ⟨_, rfl, fun _ => rfl⟩
  have hmem (window : RefreshWindow) :
      .refresh "ticks_per_hour" window ∈ chain.refreshStatements window (some [.hour]) := by
    rw [hstatements]
    exact List.mem_singleton_self _
  obtain ⟨⟨start, stop, hcall⟩, hbounds⟩ := bounds_of_mem_refreshStatements
    (Instant.isProper_of_ofRfc3339? hfirst) (Instant.isProper_of_ofRfc3339? hlast) rfl (hmem _)
  obtain ⟨hstart, hstop, hlt⟩ := hbounds hcall
  exact ⟨_, _, chain, _, ⟨hfirst, hlast⟩, rfl, hchain, hmem _, start, stop, hcall, hstart,
    hstop.2 (by decide), hlt.2 (by decide)⟩

/-- The calls for a window within one second end before the window and where they start. -/
theorem not_bounds_within_second :
    ∃ chain window,
      ((ChainBuilder.mk ⟨[]⟩ false).build ChainBuilder.trades [.minute, .hour, .day]).result =
        .ok chain ∧
      RefreshWindow.ofBounds (some ⟨1704067200, 200000000⟩) (some ⟨1704067200, 700000000⟩) =
        .ok window ∧
      (chain.refreshStatements window none).length = 3 ∧
      ∀ statement ∈ chain.refreshStatements window none, ∀ start stop,
        Statement.CallsRefresh statement.sql statement.table start stop →
          ¬ ⟨1704067200, 700000000⟩ ≤ stop ∧ ¬ start < stop := by
  refine ⟨_, _, rfl, rfl, rfl, fun statement h start stop hcall => ?_⟩
  rw [eq_refresh_of_mem_refreshStatements h] at hcall
  obtain ⟨rfl, rfl⟩ := (Statement.callsRefresh_refresh_iff (by decide) (by decide) _).1 hcall
  exact ⟨by decide, by decide⟩

end Chain

namespace RefreshWindow

theorem last?_eq_some_iff {now : Instant} {seconds : Int} {window : RefreshWindow} :
    last? now seconds = some window ↔
      (Instant.calendarStart ≤ now.seconds - seconds ∧
        now.seconds - seconds < Instant.calendarEnd) ∧
        window = ⟨some ⟨now.seconds - seconds, now.nanos⟩, some now⟩ := by
  simp only [last?, Option.map_eq_some_iff, Instant.before?_eq_some_iff]
  constructor
  · rintro ⟨_, ⟨hcalendar, rfl⟩, rfl⟩
    exact ⟨hcalendar, rfl⟩
  · rintro ⟨hcalendar, rfl⟩
    exact ⟨_, ⟨hcalendar, rfl⟩, rfl⟩

end RefreshWindow

namespace CommandLine

theorem readWindow_duration_eq_ok_iff {now : Instant} {start stop : Option String} {s : String}
    {seconds : Int} (h : readDuration s = .ok seconds) {window : RefreshWindow} :
    readWindow now start stop (some s) = .ok window ↔
      RefreshWindow.last? now seconds = some window := by
  cases hlast : RefreshWindow.last? now seconds <;>
    simp [readWindow, h, hlast, Except.mapError, bind, Except.bind, pure, Except.pure]

/-- A duration makes a window if the calendar has its start, and the window spans some time if the
duration does, and only then. -/
theorem readWindow_duration_ordered_iff {s : String} {seconds : Int} (h : readDuration s = .ok seconds)
    (now : Instant) (start stop : Option String) :
    ((∃ window, readWindow now start stop (some s) = .ok window) ↔
        Instant.calendarStart ≤ now.seconds - seconds ∧
          now.seconds - seconds < Instant.calendarEnd) ∧
      ∀ {window}, readWindow now start stop (some s) = .ok window →
        ((∃ first last, window = ⟨some first, some last⟩ ∧ first < last) ↔ 0 < seconds) := by
  simp only [readWindow_duration_eq_ok_iff h, RefreshWindow.last?_eq_some_iff]
  refine ⟨⟨fun ⟨_, hcalendar, _⟩ => hcalendar, fun hcalendar => ⟨_, hcalendar, rfl⟩⟩, ?_⟩
  rintro window ⟨-, rfl⟩
  rw [← @Instant.sub_lt_iff now seconds]
  constructor
  · rintro ⟨_, _, hwindow, hlt⟩
    cases hwindow
    exact hlt
  · exact fun hlt => ⟨_, _, rfl, hlt⟩

/-- The week before the first day of 2026. -/
theorem readWindow_duration_ordered_week :
    readDuration "7d" = .ok 604800 ∧
      ∃ first last,
        readWindow ⟨1767225600, 0⟩ none none (some "7d") = .ok ⟨some first, some last⟩ ∧
          first < last := by
  have hduration : readDuration "7d" = .ok 604800 := by decide +kernel
  obtain ⟨hexists, hordered⟩ :=
    readWindow_duration_ordered_iff hduration ⟨1767225600, 0⟩ none none
  obtain ⟨window, hwindow⟩ := hexists.2 (by decide)
  obtain ⟨first, last, rfl, hlt⟩ := (hordered hwindow).2 (by decide)
  exact ⟨hduration, first, last, hwindow, hlt⟩

/-- No hours make a window of no time, less than none one that starts ahead, and the calendar does not go
back as far as a duration may. -/
theorem not_readWindow_duration_ordered :
    (readDuration "0h" = .ok 0 ∧ readDuration "-1d" = .ok (-86400) ∧
      readDuration "300000y" = .ok 9460800000000) ∧
      readWindow ⟨1767225600, 0⟩ none none (some "0h") =
        .ok ⟨some ⟨1767225600, 0⟩, some ⟨1767225600, 0⟩⟩ ∧
      readWindow ⟨1767225600, 0⟩ none none (some "-1d") =
        .ok ⟨some ⟨1767312000, 0⟩, some ⟨1767225600, 0⟩⟩ ∧
      readWindow ⟨1767225600, 0⟩ none none (some "300000y") = .error .outsideCalendar ∧
      ¬ (⟨1767225600, 0⟩ : Instant) < ⟨1767225600, 0⟩ ∧
      ¬ (⟨1767312000, 0⟩ : Instant) < ⟨1767225600, 0⟩ := by
  refine ⟨⟨?_, ?_, ?_⟩, ?_, ?_, ?_, ?_, ?_⟩
  all_goals decide +kernel

end CommandLine

end TimeRollup
