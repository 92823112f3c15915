import KeystoneClient.Dict
import KeystoneClient.Messages
import KeystoneClient.Builders
import KeystoneClient.BuilderRuns
import KeystoneClient.Validation
import KeystoneClient.Client
import KeystoneClient.ScanStream
import KeystoneClient.Session
import KeystoneClient.Buildable
