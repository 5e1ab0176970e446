/-!
# Levels of log records

A level is a number: the higher it is, the more urgent is the record. Some have names.
-/

namespace OpenDocs.Log

abbrev Level := Int

namespace Level

def debug : Level := 10

def info : Level := 20

def warning : Level := 30

def error : Level := 40

def critical : Level := 50

def name (l : Level) : String :=
  if l = debug then "DEBUG"
  else if l = info then "INFO"
  else if l = warning then "WARNING"
  else if l = error then "ERROR"
  else if l = critical then "CRITICAL"
  else if l = 0 then "NOTSET"
  else s!"Level {l}"

end Level

end OpenDocs.Log
