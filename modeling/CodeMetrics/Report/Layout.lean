import CodeMetrics.Report.Csv
import CodeMetrics.Report.Json
import CodeMetrics.Report.Terminal

/-!
# Layouts

The layouts a report can have, by the names settings give them. Commands print a report on a
console; a report is also taken as a text, from the recorder.
-/

namespace CodeMetrics.Report

inductive Layout where
  | terminal
  | json
  | csv
  deriving DecidableEq, Repr

/-- The layouts as settings list them. -/
def Layout.all : List Layout := [.terminal, .json, .csv]

def Layout.name : Layout → String
  | .terminal => "rich"
  | .json => "json"
  | .csv => "csv"

def Layout.ofName? (name : String) : Option Layout :=
  Layout.all.find? fun layout => layout.name == name

/-- The layout of a name, which can be any value. -/
def Layout.require (name : Value) : Except Fault Layout :=
  let found := match name with
    | .text name => Layout.ofName? name
    | _ => none
  match name, found with
  | _, some layout => .ok layout
  | .list _, none | .table _, none => .error (.unhashable name.kindName)
  | _, none => .error (if name.tooLong then .tooLongToWrite else .unknownFormat name.written)

/-- What a report prints, part by part. A part that cannot be shown is a fault; the parts in front
of it are shown all the same. -/
abbrev Parts := List (Except Fault String)

/-- The whole text, when every part can be shown. -/
def Parts.text (parts : Parts) : Except Fault String := do return String.join (← parts.mapM id)

/-- The text up to the first fault, and the fault. -/
def Parts.shown : Parts → String × Option Fault
  | [] => ("", none)
  | .error fault :: _ => ("", some fault)
  | .ok text :: rest => (text ++ (Parts.shown rest).1, (Parts.shown rest).2)

/-- A text of one part. -/
def whole (text : Except Fault String) : Except Fault Parts := do return [.ok (← text)]

section

variable (console : Console)

/-- What a console prints, block by block. -/
def printed (blocks : Except Fault (List Block)) : Except Fault Parts := do
  return (← blocks).map console.print

/-- Every metric of every entry. -/
def reportOn (layout : Layout) (precision : Value) (entries : List Entry) : Except Fault Parts :=
  match layout with
  | .terminal => printed console (Terminal.report precision entries)
  | .json => whole (Json.report entries)
  | .csv => whole (Csv.report precision entries)

/-- The files by one metric. -/
def rankingOn (layout : Layout) (precision metric : Value) (ranked : List Standing)
    (distribution : Option (Statistics.Summary Float)) : Except Fault Parts :=
  match layout with
  | .terminal => printed console (Terminal.ranking precision metric ranked distribution)
  | .json => whole (Json.ranking metric ranked distribution)
  | .csv => whole (Csv.ranking precision metric ranked)

/-- One metric over the revisions of a file. -/
def historyOn (layout : Layout) (precision metric : Value) (points : List Point) :
    Except Fault Parts :=
  match layout with
  | .terminal => printed console (Terminal.history precision metric points)
  | .json => whole (Json.history metric points)
  | .csv => whole (Csv.history precision metric points)

end

/-! ## Texts -/

def report (layout : Layout) (precision : Value) (entries : List Entry) : Except Fault Parts :=
  reportOn .recorder layout precision entries

def ranking (layout : Layout) (precision metric : Value) (ranked : List Standing)
    (distribution : Option (Statistics.Summary Float)) : Except Fault Parts :=
  rankingOn .recorder layout precision metric ranked distribution

def history (layout : Layout) (precision metric : Value) (points : List Point) :
    Except Fault Parts :=
  historyOn .recorder layout precision metric points

end CodeMetrics.Report
