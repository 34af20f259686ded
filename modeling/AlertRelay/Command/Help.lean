namespace AlertRelay.Command

def programName : String := "alertrelay"

def usage : String :=
  "usage: " ++ programName ++ " [-h] [--config CONFIG] [--log-level LOG_LEVEL]\n" ++
    "                  [--alert-id ALERT_ID] [--source SOURCE]\n" ++
    "                  [--level OK|INFO|WARNING|CRITICAL] [--message MESSAGE]\n"

def helpText : String :=
  usage ++ "\n" ++
    "Send a test alert to the ServiceNow Event Management API.\n\n" ++
    "The request is written to standard output and the answer is read from standard input.\n\n" ++
    "options:\n" ++
    "  -h, --help             show this help message and exit\n" ++
    "  --config CONFIG        path to settings YAML (default: config/settings.yaml)\n" ++
    "  --log-level LOG_LEVEL  log level override: DEBUG, INFO, WARNING, ERROR\n" ++
    "  --alert-id ALERT_ID    alert ID / message key\n" ++
    "  --source SOURCE        event source\n" ++
    "  --level LEVEL          alert level (default: CRITICAL)\n" ++
    "  --message MESSAGE      event description\n"

end AlertRelay.Command
