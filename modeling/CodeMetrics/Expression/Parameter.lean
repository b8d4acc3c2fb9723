import CodeMetrics.Expression.Parser

/-!
# Parameters of functions

What stands between the word `lambda` and its colon: names, with or without a default, a slash
behind those that are given by place only, a star in front of those that are given by name only,
and names for the arguments that are left. Nothing is kept of them.
-/

namespace CodeMetrics.Expression

open CodeMetrics.Expression.Parser

/-- The rules at the next level of nesting. -/
abbrev Rules := Rule → Parser Tree

namespace Rules

variable (self : Rules)

/-- The end of a parameter: a comma, or the colon behind all of them. -/
def parameterEnd : Parser Unit := first [mark ",", ahead (mark ":")]

def defaultValue : Parser Unit :=
  first
    [do mark "="; discard (self .expression),
     reason do
      mark "="
      ahead (first [mark ")", mark ","])
      wrong .missingDefault]

/-- A parameter without a default. -/
def bareParameter : Parser Unit := do
  discard name
  parameterEnd

/-- A parameter with a default. -/
def presetParameter : Parser Unit := do
  discard name
  self.defaultValue
  parameterEnd

def parameter : Parser Unit := do
  discard name
  discard (maybe self.defaultValue)
  parameterEnd

def slashEnd : Parser Unit := do
  mark "/"
  parameterEnd

def bareSlash : Parser Unit := do
  discard (many1 bareParameter)
  slashEnd

def presetSlash : Parser Unit := do
  discard (many bareParameter)
  discard (many1 self.presetParameter)
  slashEnd

/-- Names for the arguments that are left by name. -/
def rest : Parser Unit :=
  first
    [reason do mark "**"; discard name; mark "="; wrong .restWithDefault,
     reason do mark "**"; discard name; mark ","; discard name; wrong .behindRest,
     reason do
      mark "**"
      discard name
      mark ","
      first (["*", "**", "/"].map mark)
      wrong .behindRest,
     do mark "**"; bareParameter]

/-- A star, and what may follow it. -/
def starParameters : Parser Unit :=
  first
    [reason do
      mark "*"
      first [mark ":", do mark ","; first [mark ":", mark "**"]]
      wrong .bareParameterStar,
     reason do mark "*"; discard name; mark "="; wrong .starWithDefault,
     reason do
      mark "*"
      first [bareParameter, mark ","]
      discard (many self.parameter)
      mark "*"
      first [bareParameter, mark ","]
      wrong .starTwice,
     do
      mark "*"
      bareParameter
      discard (many self.parameter)
      discard (maybe rest),
     do
      mark "*"
      mark ","
      discard (many1 self.parameter)
      discard (maybe rest),
     rest]

/-- What parameters cannot look like. -/
def badParameters : Parser Unit :=
  reason <| first
    [do
      discard (many bareParameter)
      first [self.presetSlash, discard (many1 self.presetParameter)]
      bareParameter
      wrong .bareBehindDefault,
     do
      discard (many bareParameter)
      mark "("
      discard (separated name)
      discard (maybe (mark ","))
      mark ")"
      wrong .bracketedParameters,
     do mark "/"; mark ","; wrong .leadingSlash,
     do
      first [bareSlash, self.presetSlash]
      discard (many self.parameter)
      mark "/"
      wrong .slashTwice,
     do
      discard (maybe (first [bareSlash, self.presetSlash]))
      discard (many self.parameter)
      mark "*"
      first [mark ",", bareParameter]
      discard (many self.parameter)
      mark "/"
      wrong .slashBehindStar,
     do
      discard (many1 self.parameter)
      mark "/"
      mark "*"
      wrong .missingStarComma]

def parameters : Parser Unit :=
  let presets := discard (many self.presetParameter)
  let star := discard (maybe self.starParameters)
  first
    [self.badParameters,
     do bareSlash; discard (many bareParameter); presets; star,
     do self.presetSlash; presets; star,
     do discard (many1 bareParameter); presets; star,
     do discard (many1 self.presetParameter); star,
     self.starParameters]

end Rules

end CodeMetrics.Expression
