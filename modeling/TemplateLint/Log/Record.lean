/-! Log records and their levels. -/

namespace TemplateLint.Log

def debug : Int := 10
def info : Int := 20
def warning : Int := 30
def error : Int := 40
def critical : Int := 50

/-- A level between the named ones is written with its number. -/
def levelName (level : Int) : String :=
  if level = debug then "DEBUG"
  else if level = info then "INFO"
  else if level = warning then "WARNING"
  else if level = error then "ERROR"
  else if level = critical then "CRITICAL"
  else if level = 0 then "NOTSET"
  else "Level " ++ toString level

structure Record where
  channel : String
  level : Int
  message : String
  deriving DecidableEq, Repr

/-- The channel of the program itself; its parts have channels below it. -/
def rootChannel : String := "invocable_lint"

def configChannel : String := "invocable_lint.config"

def scopeChannel : String := "invocable_lint.rules.scope"

def checkChannel : String := "invocable_lint.rules.invocable_blacklist"

def ruleChannel : String := "invocable_lint.rules.base"

end TemplateLint.Log
