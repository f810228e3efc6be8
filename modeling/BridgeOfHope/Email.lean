import BridgeOfHope.Runtime

namespace BridgeOfHope

open Process

-- `EmailService(settings).send(...)`. The text sent is `template.render`. No
-- caller uses the message id that it returns.
def sendEmail (settings : Settings) (to_ subject : String) (template : Template) : Act Unit := do
  let mail : Mail := ⟨to_, subject, template, settings.emailFrom, settings.emailReplyTo⟩
  if settings.emailProvider = "smtp" && Settings.given settings.smtpHost then
    Prog.ofExcept (← perform (.smtp mail))
  else
    perform (.log mail)

end BridgeOfHope
