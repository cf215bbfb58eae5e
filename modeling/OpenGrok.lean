import OpenGrok.Loop.Calm
import OpenGrok.Properties.Answers
import OpenGrok.Properties.Authorisation
import OpenGrok.Properties.Batch
import OpenGrok.Properties.Capture
import OpenGrok.Properties.Codec
import OpenGrok.Properties.Confinement
import OpenGrok.Properties.Conservation
import OpenGrok.Properties.Consistency
import OpenGrok.Properties.Creation
import OpenGrok.Properties.Crossing
import OpenGrok.Properties.Descriptors
import OpenGrok.Properties.Dismissal
import OpenGrok.Properties.Framing
import OpenGrok.Properties.Guarantees
import OpenGrok.Properties.HalfClose
import OpenGrok.Properties.Headers
import OpenGrok.Properties.IniFormat
import OpenGrok.Properties.Introduced
import OpenGrok.Properties.Magic
import OpenGrok.Properties.Pages
import OpenGrok.Properties.Payload
import OpenGrok.Properties.Reading
import OpenGrok.Properties.Roster
import OpenGrok.Properties.Running
import OpenGrok.Properties.Sessions
import OpenGrok.Properties.Settings
import OpenGrok.Properties.Stream
import OpenGrok.Properties.Teardown
import OpenGrok.Properties.Tunnel
